import Mathlib
import ScriptCache.Proofs.Store.Gripping

/-! Locks, as a party's deeds tell of them.

What a party did and was answered tells which locks it has (`lockOf`): those that it was granted
and has not given up since, nor closed the file of. `Minds` says that the machine agrees, and that
a file opened by the path of a slot's lock is still the slot's lock file; what others do does not
change that (`Minds.rely`), nor does what the party does to its own files (`Minds.perform`). So no
two parties have a slot's lock unless both share it (`Locked.excludes`). -/
namespace ScriptCache

/-! ### Locks in deeds -/

/-- What a deed makes of the lock on an open file. -/
def Deed.lockAfter (handle : Handle) (lock : Option LockMode) : Deed → Option LockMode
  | ⟨.tryLock other mode, .granted⟩ => if other = handle then some mode else lock
  | ⟨.unlock other, _⟩ => if other = handle then none else lock
  | ⟨.closeFile other, _⟩ => if other = handle then none else lock
  | _ => lock

/-- The lock that some deeds, the latest first, leave on an open file. -/
def lockOf (handle : Handle) : List Deed → Option LockMode
  | [] => none
  | deed :: before => deed.lockAfter handle (lockOf handle before)

/-- Whether who did some deeds was granted a slot's lock and has not given it up. -/
def Locked (slot : Slot) (mode : LockMode) (deeds : List Deed) : Prop :=
  ∃ handle, ⟨.openFile slot.lock .append, .ok handle⟩ ∈ deeds ∧ lockOf handle deeds = some mode

theorem Deed.lockAfter_of_not_mem {deed : Deed} {handle : Handle}
    (h : handle ∉ deed.action.handles) (lock : Option LockMode) :
    deed.lockAfter handle lock = lock := by
  obtain ⟨action, reply⟩ := deed
  cases action with
  | tryLock other mode =>
    have hne : other ≠ handle := fun heq => h (heq ▸ List.mem_singleton_self _)
    cases reply with
    | granted => exact if_neg hne
    | held | failed => rfl
  | unlock other | closeFile other =>
    exact if_neg fun heq : other = handle => h (heq ▸ List.mem_singleton_self _)
  | _ => rfl

/-- A lock is there because it was there before or was granted just now. -/
theorem Deed.lockAfter_eq_some {deed : Deed} {handle : Handle} {lock : Option LockMode}
    {mode : LockMode} (h : deed.lockAfter handle lock = some mode) :
    lock = some mode ∨ deed = ⟨.tryLock handle mode, .granted⟩ := by
  obtain ⟨action, reply⟩ := deed
  cases action with
  | tryLock other granted =>
    cases reply with
    | granted =>
      rw [lockAfter] at h
      split at h
      · rename_i hsame
        cases h
        exact .inr (by rw [hsame])
      · exact .inl h
    | held | failed => exact .inl h
  | unlock other | closeFile other =>
    rw [lockAfter] at h
    split at h
    · cases h
    · exact .inl h
  | _ => exact .inl h

/-! ### Locks of the machine -/

namespace Machine

variable {m : Machine} {handle : Handle}

/-- What matters of an open file to who asks for a lock. -/
def bearing (file : OpenFile) : NodeId × Option LockMode := (file.node, file.lock)

theorem bearing_moved {other : Handle} {file : OpenFile} (h : m.file? other = some file)
    (offset : Nat) (handle : Handle) :
    ((m.setFile other (some { file with offset })).file? handle).map bearing =
      (m.file? handle).map bearing := by
  rw [file?_setFile_of_some h]
  split
  · rename_i hsame
    rw [hsame, h]
    rfl
  · rfl

/-- An open file goes on being the same file, and its lock is what the deed tells. -/
theorem bearing_perform (hlt : handle < m.files.length) (hdue : handle ∉ m.releases.map Prod.snd)
    (action : Action) : ((m.perform action).2.file? handle).map bearing =
      if action = .closeFile handle then none
      else (m.file? handle).map fun file =>
        (file.node, Deed.lockAfter handle file.lock ⟨action, (m.perform action).1⟩) := by
  by_cases hmem : handle ∈ action.handles
  · cases action with
    | closeFile other =>
      obtain rfl := List.mem_singleton.mp hmem
      simp [perform, file?_close]
    | tryLock other mode =>
      obtain rfl := List.mem_singleton.mp hmem
      simp only [perform, tryLock]
      cases hfile : m.file? handle with
      | none => simp [hfile]
      | some file =>
        by_cases hblocked : m.blocked handle file.node mode = true
        · simp [hblocked, hfile, bearing, Deed.lockAfter]
        · simp [hblocked, file?_setFile_of_some hfile, bearing, Deed.lockAfter]
    | unlock other =>
      obtain rfl := List.mem_singleton.mp hmem
      simp only [perform, unlock]
      cases hfile : m.file? handle with
      | none => simp [hfile]
      | some file => simp [file?_setFile_of_some hfile, bearing, Deed.lockAfter]
    | readRest other =>
      rw [if_neg (by rintro ⟨⟩)]
      show _ = (m.file? handle).map bearing
      simp only [perform, readRest]
      split
      · rfl
      · rename_i file hfile
        split
        · exact bearing_moved hfile _ handle
        all_goals rfl
    | isRegular other | sync other => rfl
    | setLength other length =>
      rw [if_neg (by rintro ⟨⟩)]
      show _ = (m.file? handle).map bearing
      simp only [perform, setLength]
      split
      · rfl
      · split <;> rfl
    | write other bytes =>
      rw [if_neg (by rintro ⟨⟩)]
      show _ = (m.file? handle).map bearing
      simp only [perform, write]
      split
      · rfl
      · rename_i file hfile
        split
        · rfl
        · split
          · exact bearing_moved (m := { m with disk := _ }) hfile _ handle
          · rfl
          · rfl
          · rfl
    | copyMode source target =>
      rw [if_neg (by rintro ⟨⟩)]
      show _ = (m.file? handle).map bearing
      simp only [perform, copyMode]
      split <;> rfl
    | _ => cases hmem
  · have hkept := (frame_perform m action).kept hlt hmem hdue
    have hclose : action ≠ .closeFile handle := by
      rintro rfl
      exact hmem (List.mem_singleton_self _)
    have hlock (lock : Option LockMode) :
        Deed.lockAfter handle lock ⟨action, (m.perform action).1⟩ = lock :=
      Deed.lockAfter_of_not_mem hmem lock
    rw [hkept, if_neg hclose]
    simp only [hlock]
    rfl

end Machine

/-! ### A party and the machine -/

/-- Whether a machine has the locks that a party's deeds tell of, and whether the files that the
party opened to lock slots are the slots' lock files. -/
structure Minds (path : String) (t : Trace) (m : Machine) : Prop where
  locked : ∀ {handle mode}, lockOf handle (Trace.deeds t) = some mode →
    handle ∈ Trace.opened t ∧ ∃ file, m.file? handle = some file ∧ file.lock = some mode
  placed : ∀ {slot : Slot} {handle file}, slot.folder = path →
    ⟨.openFile slot.lock .append, .ok handle⟩ ∈ Trace.deeds t → m.file? handle = some file →
    ∃ folder, m.disk.Leads path folder ∧
      m.disk.child? folder (Slot.lockName slot.name) = some file.node

section

variable {path : String} {t t' : Trace} {m : Machine} {s s' : Tracked} {slot : Slot}

theorem Trace.opened_of_deed {other : String} {mode : OpenMode} {handle : Handle}
    (h : ⟨.openFile other mode, .ok handle⟩ ∈ Trace.deeds t) : handle ∈ Trace.opened t := by
  obtain ⟨moment, hmem, hdeed⟩ := List.mem_map.mp h
  exact List.mem_filterMap.mpr ⟨moment, hmem, by rw [hdeed]; rfl⟩

theorem minds_nil (path : String) (m : Machine) : Minds path [] m where
  locked h := by cases h
  placed _ h := by cases h

theorem Minds.rely [Wire.Memory] (h : Minds path t s.machine)
    (hrely : Rely path (Trace.opened t) s s') :
    Minds path t s'.machine where
  locked hlock := by
    obtain ⟨hown, file, hfile, hmode⟩ := h.locked hlock
    exact ⟨hown, file, (hrely.files _ hown).trans hfile, hmode⟩
  placed hslot hopen hfile := by
    rw [hrely.files _ (Trace.opened_of_deed hopen)] at hfile
    obtain ⟨folder, hleads, hentry⟩ := h.placed hslot hopen hfile
    exact ⟨folder, hrely.leads hleads, hrely.entries hleads hentry fun other heq =>
      Slot.infoName_ne_lockName other _ heq.symm⟩

/-- What a party does to its own files does what its deeds tell. -/
theorem Minds.perform [Wire.Memory] (h : Minds path t s.machine) (hs : Sound path s)
    (howned : Owned (Trace.opened t) s.machine) {action : Action}
    (hown : ∀ handle ∈ action.handles, handle ∈ Trace.opened t) {i : Option Insertion}
    (hguarantee : Guarantee path (Trace.opened t) s (s.perform i t action)) :
    Minds path (s.moment action :: t) (s.machine.perform action).2 where
  locked {handle mode} hlock := by
    rcases Deed.lockAfter_eq_some hlock with hbefore | hgranted
    · obtain ⟨hopened, file, hfile, hmode⟩ := h.locked hbefore
      have hbearing :=
        Machine.bearing_perform (howned handle hopened).1 (howned handle hopened).2 action
      have hkept : action ≠ .closeFile handle := by
        rintro rfl
        have hnone : lockOf handle (Trace.deeds (s.moment (.closeFile handle) :: t)) = none :=
          if_pos rfl
        rw [hnone] at hlock
        cases hlock
      have hafter : Deed.lockAfter handle (some mode) ⟨action, (s.machine.perform action).1⟩ =
          some mode := hbefore ▸ hlock
      rw [if_neg hkept, hfile, Option.map_some, hmode, hafter] at hbearing
      obtain ⟨file', hfile', hsame⟩ := Option.map_eq_some_iff.mp hbearing
      exact ⟨Trace.mem_opened_cons hopened _, file', hfile', congrArg Prod.snd hsame⟩
    · have haction : action = .tryLock handle mode := congrArg Deed.action hgranted
      subst haction
      have hreply : (s.machine.perform (.tryLock handle mode)).1 = .granted :=
        eq_of_heq (Deed.mk.inj hgranted).2
      obtain ⟨file, hfile, hset⟩ := tryLock_granted hreply
      refine ⟨Trace.mem_opened_cons (hown handle (List.mem_singleton_self _)) _,
        { file with lock := some mode }, ?_, rfl⟩
      rw [hset, Machine.file?_setFile_of_some hfile, if_pos rfl]
  placed {slot handle file} hslot hopen hfile := by
    rcases List.mem_cons.mp hopen with hnew | hold
    · have haction : Action.openFile slot.lock .append = action := congrArg Deed.action hnew
      subst haction
      have hreply : (s.machine.perform (.openFile slot.lock .append)).1 = .ok handle :=
        (eq_of_heq (Deed.mk.inj hnew).2).symm
      rw [slot.lock_eq, hslot] at hreply hfile ⊢
      obtain ⟨-, -, -, folder, node, lock, hfile', hleads, hentry⟩ :=
        pointing_of_open hs slot.plain_lockName (.inr (.inl rfl)) nofun hreply t
      rw [hfile] at hfile'
      cases hfile'
      exact ⟨folder, hleads, hentry⟩
    · have hopened := Trace.opened_of_deed hold
      have hbearing :=
        Machine.bearing_perform (howned handle hopened).1 (howned handle hopened).2 action
      rw [hfile] at hbearing
      split at hbearing
      · cases hbearing
      · obtain ⟨before, hbefore, hsame⟩ := Option.map_eq_some_iff.mp hbearing.symm
        obtain ⟨folder, hleads, hentry⟩ := h.placed hslot hold hbefore
        have hnode : before.node = file.node := congrArg Prod.fst hsame
        rw [hnode] at hentry
        exact ⟨folder, hguarantee.leads hleads, hguarantee.entries hleads hentry fun other heq =>
          Slot.infoName_ne_lockName other _ heq.symm⟩

/-- A slot's lock that a party's deeds tell of is there. -/
theorem Minds.grips (h : Minds slot.folder t m) {mode : LockMode}
    (hlocked : Locked slot mode (Trace.deeds t)) :
    ∃ handle ∈ Trace.opened t, Grips slot.folder slot.name mode m handle := by
  obtain ⟨handle, hopen, hlock⟩ := hlocked
  obtain ⟨hopened, file, hfile, hmode⟩ := h.locked hlock
  obtain ⟨folder, hleads, hentry⟩ := h.placed rfl hopen hfile
  exact ⟨handle, hopened, file, folder, hfile, hmode, hleads, hentry⟩

/-- While one party has a slot's lock for itself, no other has it in any mode. -/
theorem Locked.excludes (h : Locked slot .exclusive (Trace.deeds t))
    (hminds : Minds slot.folder t m) (hminds' : Minds slot.folder t' m) (hlocks : m.LocksApart)
    (hapart : ∀ handle ∈ Trace.opened t', handle ∉ Trace.opened t) (mode : LockMode) :
    ¬ Locked slot mode (Trace.deeds t') := by
  intro h'
  obtain ⟨handle, hown, hgrips⟩ := hminds.grips h
  obtain ⟨handle', hown', hgrips'⟩ := hminds'.grips h'
  have hne : handle' ≠ handle := fun heq => hapart handle' hown' (heq ▸ hown)
  have hcompatible := hgrips'.compatible hlocks hgrips hne
  rw [LockMode.excludes_exclusive] at hcompatible
  cases hcompatible

end

end ScriptCache
