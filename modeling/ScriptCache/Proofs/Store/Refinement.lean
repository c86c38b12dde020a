import Mathlib
import ScriptCache.Proofs.Store.Available
import ScriptCache.Proofs.Store.Closing
import ScriptCache.Proofs.Store.Still

/-! The store is a map.

A session puts artifacts into the slots of one cache folder and looks them up, and takes and
drops other locks in between, on whatever files. To a lookup that has its locks the folder is a
map from names to what was inserted last: `lookup_hit_iff` says that a lookup hits just if the
last insertion under the name that succeeded is of use to it, and with what. -/
namespace ScriptCache

/-! ### Sessions -/

/-- What is asked for in a session. Locks are told by the order in which they were taken. -/
inductive Call where
  | insert (store : Store) (name : ResourceName) (artifact : Bytes) (metadata : Metadata)
  | lookup (store : Store) (name : ResourceName) (dependencies : DependencyTable) (signature : Bytes)
  | acquire (path : String) (mode : LockMode) (policy : RetryPolicy)
  | release (lock : Nat)
  | drop (lock : Nat)
  /-- Leaves a lock to others, who drop it after a span of time. -/
  | dropLater (lock : Nat) (span : Duration)

/-- How a call ends. -/
inductive Outcome where
  | inserted (result : Except CacheError Unit)
  | found (outcome : LookupOutcome)
  | acquired (result : Except LockError FileLock)
  | done

structure Session where
  machine : Machine
  /-- The locks taken and not dropped. -/
  locks : List FileLock := []
  /-- What was asked for, and how it ended, the latest first. -/
  history : List (Call × Outcome) := []

namespace Session

/-- Notes how a call ended. -/
def after (s : Session) (call : Call) (outcome : Outcome) (m : Machine) : Session :=
  { s with machine := m, history := (call, outcome) :: s.history }

variable [Wire.Memory]

def step (folder : String) (s : Session) (call : Call) : Session :=
  match call with
  | .insert store name artifact metadata =>
    let (result, m) := (store.insert (name.slot folder) artifact metadata).run s.machine
    s.after call (.inserted result) m
  | .lookup store name dependencies signature =>
    let (outcome, m) := (store.lookup (name.slot folder) dependencies signature).run s.machine
    s.after call (.found outcome) m
  | .acquire path mode policy =>
    let (result, m) := (FileLock.acquire path mode policy).run s.machine
    { s.after call (.acquired result) m with locks := s.locks ++ result.toOption.toList }
  | .release k =>
    match s.locks[k]? with
    | some lock =>
      let (released, m) := lock.release.run s.machine
      { s.after call .done m with locks := s.locks.set k released }
    | none => s.after call .done s.machine
  | .drop k =>
    match s.locks[k]? with
    | some lock => { s.after call .done (lock.drop.run s.machine).2 with locks := s.locks.eraseIdx k }
    | none => s.after call .done s.machine
  | .dropLater k span =>
    match s.locks[k]? with
    | some lock =>
      { s.after call .done (s.machine.closeLater lock.handle span) with
        locks := s.locks.eraseIdx k }
    | none => s.after call .done s.machine

/-- A session from its start on. -/
def run (folder : String) (m : Machine) (calls : List Call) : Session :=
  calls.foldl (step folder) { machine := m }

end Session

/-- What was inserted last under a name, of the insertions that succeeded. -/
def lastInserted (name : ResourceName) : List (Call × Outcome) → Option (Bytes × Metadata)
  | [] => none
  | (.insert _ other artifact metadata, .inserted (.ok ())) :: before =>
    if other = name then some (artifact, metadata) else lastInserted name before
  | _ :: before => lastInserted name before

/-- Whether what is inserted has lengths that can be written down. -/
def Call.Fits [Wire.Memory] : Call → Prop
  | .insert _ _ _ metadata => metadata.Fits
  | _ => True

instance [Wire.Memory] (call : Call) : Decidable call.Fits :=
  match call with
  | .insert _ _ _ metadata => inferInstanceAs (Decidable metadata.Fits)
  | .lookup .. | .acquire .. | .release _ | .drop _ | .dropLater .. => isTrue trivial

/-! ### Locks besides -/

theorem Action.Still.harmless {action : Action} {path : String} (h : action.Still) :
    action.Harmless path := by
  cases action with
  | openFile other mode => exact .inl h
  | makeFolder | makeLink | setLength | write | unlink | copyMode | launch => exact h.elim
  | _ => trivial

namespace Routine

variable {α β : Type} {path : String}

/-- Whether a routine leaves the slots of a cache folder as they are, whatever it is answered. -/
def Harmless (path : String) : Routine α → Prop
  | done _ => True
  | act action next => action.Harmless path ∧ ∀ reply, (next reply).Harmless path

theorem Harmless.bind {routine : Routine α} {f : α → Routine β} (h : routine.Harmless path)
    (hf : ∀ a, (f a).Harmless path) : (routine >>= f).Harmless path := by
  show (routine.bind f).Harmless path
  induction routine with
  | done a => exact hf a
  | act action next ih => exact ⟨h.1, fun reply => ih reply (h.2 reply)⟩

theorem harmless_perform {action : Action} (h : action.Harmless path) :
    (Routine.perform action).Harmless path :=
  ⟨h, fun _ => trivial⟩

theorem Takes.harmless {P : Action → Prop} {routine : Routine α} (h : routine.Takes P)
    (hP : ∀ action, P action → action.Harmless path) : routine.Harmless path := by
  induction routine with
  | done a => trivial
  | act action next ih => exact ⟨hP action h.1, fun reply => ih reply (h.2 reply)⟩

/-- What leaves the disk as it is leaves every slot as it is. -/
theorem harmless_of_still {routine : Routine α} (h : routine.Takes Action.Still) :
    routine.Harmless path :=
  h.harmless fun _ => Action.Still.harmless

theorem Harmless.run [Wire.Memory] {routine : Routine α} (h : routine.Harmless path) {m : Machine}
    {ledger : Ledger} (hs : Sound path ⟨m, ledger⟩) : Sound path ⟨(routine.run m).2, ledger⟩ := by
  induction routine generalizing m with
  | done a => exact hs
  | act action next ih => exact ih _ (h.2 _) (hs.harmless h.1)

theorem length_run (routine : Routine α) (m : Machine) :
    m.files.length ≤ (routine.run m).2.files.length := by
  induction routine generalizing m with
  | done a => exact Nat.le_refl _
  | act action next ih => exact (Machine.frame_perform m action).length.trans (ih _ _)

end Routine

section

variable {path : String}

theorem harmless_lockFile (handle : Handle) (lockPath : String) (mode : LockMode)
    (policy : RetryPolicy) : (FileLock.lockFile handle lockPath mode policy).Harmless path :=
  Routine.harmless_of_still (still_lockFile handle lockPath mode policy)

theorem harmless_openLock (lockPath : String) : (FileLock.openLock lockPath).Harmless path := by
  have hopen : (Action.openFile lockPath .append).Harmless path := .inr (.inl rfl)
  have hread : (Action.openFile lockPath .read).Harmless path := .inl rfl
  refine (Routine.harmless_perform hopen).bind fun reply => ?_
  cases reply with
  | ok handle => trivial
  | error e =>
    dsimp only
    split
    · exact Routine.harmless_perform hread
    · trivial

theorem harmless_acquire (lockPath : String) (mode : LockMode) (policy : RetryPolicy) :
    (FileLock.acquire lockPath mode policy).Harmless path := by
  refine (harmless_openLock lockPath).bind fun reply => ?_
  cases reply with
  | error e => trivial
  | ok handle => exact harmless_lockFile handle lockPath mode policy

theorem harmless_release (lock : FileLock) : lock.release.Harmless path :=
  Routine.harmless_of_still (still_release lock)

theorem harmless_drop (lock : FileLock) : lock.drop.Harmless path :=
  Routine.harmless_of_still (still_drop lock)

end

/-! ### What a session keeps -/

/-- What the entries of a cache folder are after a session. -/
def ledgerOf (folder : String) : List (Call × Outcome) → Ledger
  | [] => fun _ => none
  | (.insert _ name artifact metadata, .inserted result) :: before =>
    (ledgerOf folder before).inserted ⟨0, name.slot folder, artifact, metadata⟩ result
  | _ :: before => ledgerOf folder before

/-- Whether a session has made of a cache folder what its history says. -/
structure Session.Kept [Wire.Memory] (folder : String) (s : Session) : Prop where
  sound : Sound folder ⟨s.machine, ledgerOf folder s.history⟩
  locks : ∀ lock ∈ s.locks, lock.handle < s.machine.files.length

section

variable {folder : String} {s : Session}

theorem whole?_ledgerOf (folder : String) (name : ResourceName) (history : List (Call × Outcome)) :
    Record.whole? (ledgerOf folder history name.val) = (lastInserted name history).map
      fun inserted => ⟨0, name.slot folder, inserted.1, inserted.2⟩ := by
  fun_induction lastInserted name history with
  | case1 => rfl
  | case2 store artifact metadata before =>
    rw [ledgerOf, Ledger.inserted]
    show Record.whole? (Ledger.set _ name.val _ name.val) = _
    rw [Ledger.set_same]
    rfl
  | case3 store other artifact metadata before hother ih =>
    have hne : name.val ≠ other.val := fun heq => hother (Subtype.ext heq.symm)
    rw [ledgerOf, Ledger.inserted]
    show Record.whole? (Ledger.set _ other.val _ name.val) = _
    rw [Ledger.set_other hne, ih]
  | case4 entry before hentry ih =>
    obtain ⟨call, outcome⟩ := entry
    have hsame : ledgerOf folder ((call, outcome) :: before) = ledgerOf folder before := by
      cases call with
      | insert store other artifact metadata =>
        cases outcome with
        | inserted result =>
          cases result with
          | ok u => exact absurd rfl (hentry store other artifact metadata)
          | error e => rfl
        | _ => rfl
      | _ => cases outcome <;> rfl
    rw [hsame, ih]

/-- A lock that was taken is on an open file. -/
theorem handle_acquire {lockPath : String} {mode : LockMode} {policy : RetryPolicy} {m : Machine}
    {lock : FileLock} (h : ((FileLock.acquire lockPath mode policy).run m).1 = .ok lock) :
    lock.handle < ((FileLock.acquire lockPath mode policy).run m).2.files.length := by
  obtain ⟨after, htaken, hbeside⟩ := (Routine.Beside.refl m).run (uses_acquire lockPath mode policy)
  rw [h] at htaken
  obtain rfl : after = [lock.handle] := htaken
  exact (hbeside.mine lock.handle (List.mem_singleton_self _)).2

theorem handle_release (lock : FileLock) (m : Machine) :
    (lock.release.run m).1.handle = lock.handle := by
  rw [FileLock.release]
  split <;> rfl

variable [Wire.Memory]

theorem Session.Kept.of_run {α : Type} (h : s.Kept folder) {routine : Routine α} {m : Machine}
    (hm : m = (routine.run s.machine).2) {history : List (Call × Outcome)} {locks : List FileLock}
    (hsound : Sound folder ⟨m, ledgerOf folder history⟩)
    (hlocks : ∀ lock ∈ locks, lock ∈ s.locks ∨ lock.handle < m.files.length) :
    Session.Kept folder ⟨m, locks, history⟩ := by
  refine ⟨hsound, fun lock hlock => ?_⟩
  rcases hlocks lock hlock with hold | hnew
  · rw [hm]
    exact Nat.lt_of_lt_of_le (h.locks lock hold) (routine.length_run s.machine)
  · exact hnew

theorem Session.Kept.step (h : s.Kept folder) (call : Call) (hfits : call.Fits) :
    (s.step folder call).Kept folder := by
  have hsound := h.sound
  have hnone : Session.Kept folder (s.after call .done s.machine) := by
    refine ⟨?_, h.locks⟩
    cases call <;> exact hsound
  cases call with
  | insert store name artifact metadata =>
    refine h.of_run rfl ?_ fun lock hlock => .inl hlock
    exact insert_run (i := ⟨0, name.slot folder, artifact, metadata⟩) store hfits hsound
  | lookup store name dependencies signature =>
    have hlookup : Sound (name.slot folder).folder
        ⟨((store.lookup (name.slot folder) dependencies signature).run s.machine).2,
          ledgerOf folder s.history⟩ := (lookup_run store hsound).1
    exact h.of_run rfl hlookup fun lock hlock => .inl hlock
  | acquire path mode policy =>
    have hsound' := (harmless_acquire path mode policy).run hsound
    have hlocks : ∀ lock ∈ s.locks ++
          ((FileLock.acquire path mode policy).run s.machine).1.toOption.toList,
        lock ∈ s.locks ∨
          lock.handle < ((FileLock.acquire path mode policy).run s.machine).2.files.length := by
      intro lock hlock
      refine (List.mem_append.mp hlock).imp_right fun hnew => ?_
      cases hresult : ((FileLock.acquire path mode policy).run s.machine).1 with
      | error e =>
        rw [hresult] at hnew
        cases hnew
      | ok taken =>
        rw [hresult] at hnew
        obtain rfl : lock = taken := by simpa [Except.toOption] using hnew
        exact handle_acquire hresult
    have hkept : Session.Kept folder ⟨_, _, (.acquire path mode policy, .acquired
      ((FileLock.acquire path mode policy).run s.machine).1) :: s.history⟩ :=
      h.of_run rfl hsound' hlocks
    rw [Session.step]
    generalize (FileLock.acquire path mode policy).run s.machine = reached at hkept ⊢
    exact hkept
  | release k =>
    rw [Session.step]
    cases hlock : s.locks[k]? with
    | none => exact hnone
    | some lock =>
      refine h.of_run rfl ((harmless_release lock).run hsound) fun other hother => ?_
      rcases List.mem_or_eq_of_mem_set hother with hold | rfl
      · exact .inl hold
      · right
        rw [handle_release]
        exact Nat.lt_of_lt_of_le (h.locks lock (List.mem_of_getElem? hlock))
          (lock.release.length_run s.machine)
  | drop k =>
    rw [Session.step]
    cases hlock : s.locks[k]? with
    | none => exact hnone
    | some lock =>
      refine h.of_run rfl ((harmless_drop lock).run hsound) fun other hother => .inl ?_
      exact List.mem_of_mem_eraseIdx hother
  | dropLater k span =>
    rw [Session.step]
    cases hlock : s.locks[k]? with
    | none => exact hnone
    | some lock =>
      refine ⟨⟨⟨hsound.locks.apart⟩, fun release hrelease => ?_, hsound.unrestricted, hsound.site⟩,
        fun other hother => h.locks other (List.mem_of_mem_eraseIdx hother)⟩
      rcases List.mem_append.mp hrelease with hold | hnew
      · exact hsound.releases release hold
      · obtain rfl := List.mem_singleton.mp hnew
        exact h.locks lock (List.mem_of_getElem? hlock)

theorem Session.Kept.run {calls : List Call} (h : s.Kept folder)
    (hfits : ∀ call ∈ calls, call.Fits) : (calls.foldl (Session.step folder) s).Kept folder := by
  induction calls generalizing s with
  | nil => exact h
  | cons call calls ih =>
    obtain ⟨hcall, hcalls⟩ := List.forall_mem_cons.mp hfits
    exact ih (h.step call hcall) hcalls

theorem Machine.Fresh.kept {m : Machine} (h : m.Fresh folder) :
    Session.Kept folder { machine := m } :=
  ⟨h.sound, nofun⟩

end

/-! ### The map -/

section

variable [Wire.Memory]

/-- What a lookup is answered after a session. -/
def Session.answer (folder : String) (s : Session) (store : Store) (name : ResourceName)
    (dependencies : DependencyTable) (signature : Bytes) : LookupOutcome :=
  ((store.lookup (name.slot folder) dependencies signature).run s.machine).1

/-- Whether a call puts nothing new under a name: an insertion under another name, one that
fails, one of what is there already, or no insertion at all. -/
def Session.Spares (folder : String) (s : Session) (name : ResourceName) : Call → Prop
  | .insert store other artifact metadata => other ≠ name ∨
    (∃ e, ((store.insert (other.slot folder) artifact metadata).run s.machine).1 = .error e) ∨
    lastInserted name s.history = some (artifact, metadata)
  | _ => True

variable {folder : String} {s : Session} {store : Store} {name : ResourceName}
  {dependencies : DependencyTable} {signature : Bytes}

theorem Session.Spares.lastInserted {call : Call} (h : s.Spares folder name call) :
    lastInserted name (s.step folder call).history = lastInserted name s.history := by
  cases call with
  | insert store other artifact metadata =>
    have hhistory : (s.step folder (.insert store other artifact metadata)).history =
      (.insert store other artifact metadata, .inserted
        ((store.insert (other.slot folder) artifact metadata).run s.machine).1) :: s.history := rfl
    rw [hhistory]
    cases hresult : ((store.insert (other.slot folder) artifact metadata).run s.machine).1 with
    | error e => rfl
    | ok u =>
      rw [ScriptCache.lastInserted]
      split
      · rename_i hsame
        rcases h with hother | ⟨e, herror⟩ | hlast
        · exact absurd hsame hother
        · rw [hresult] at herror
          cases herror
        · exact hlast.symm
      · rfl
  | lookup store other dependencies signature => rfl
  | acquire path mode policy => rfl
  | release k | drop k | dropLater k span =>
    rw [Session.step]
    cases s.locks[k]? <;> rfl

/-- To a lookup that had its locks, the folder is what was inserted last. -/
theorem Session.Kept.hit_iff (h : s.Kept folder) (hforce : store.force = false)
    (hlocks : (s.answer folder store name dependencies signature).HadLocks) (hit : CachedArtifact) :
    s.answer folder store name dependencies signature = .hit hit ↔
      ∃ artifact metadata, lastInserted name s.history = some (artifact, metadata) ∧
        metadata.matchesArtifact artifact = true ∧
        metadata.dependencies.entries.Perm dependencies.entries ∧ metadata.signature = signature ∧
        hit = ⟨(name.slot folder).artifact, artifact, metadata⟩ := by
  have hsound : Sound (name.slot folder).folder ⟨s.machine, ledgerOf folder s.history⟩ := h.sound
  have hentry : Record.whole? (ledgerOf folder s.history (name.slot folder).name) =
      (lastInserted name s.history).map fun inserted =>
        ⟨0, name.slot folder, inserted.1, inserted.2⟩ := whole?_ledgerOf folder name s.history
  have hhit := lookup_hit_iff hsound (.inr hlocks) hit
  rw [hentry] at hhit
  rw [Session.answer, hhit, and_iff_right hforce]
  constructor
  · rintro ⟨i, hi, ⟨hmatches, hperm, hsignature⟩, rfl⟩
    obtain ⟨⟨artifact, metadata⟩, hlast, rfl⟩ := Option.map_eq_some_iff.mp hi
    exact ⟨artifact, metadata, hlast, hmatches, hperm, hsignature, rfl⟩
  · rintro ⟨artifact, metadata, hlast, hmatches, hperm, hsignature, rfl⟩
    refine ⟨⟨0, name.slot folder, artifact, metadata⟩, ?_, ⟨hmatches, hperm, hsignature⟩, rfl⟩
    rw [hlast, Option.map_some]

/-- The store is a map from names to what was inserted last. A lookup gets its locks if they are
to be had. If it got them it hits just if the last insertion under its name that succeeded is of
use to it, with just what was inserted; and whatever is done that puts nothing new under the name,
it goes on hitting so. No call of the session fails midway here: what an insertion leaves that does
is the matter of `failed_insert_safe`. -/
theorem session_refines_map {m : Machine} (hfresh : m.Fresh folder) {calls : List Call}
    (hfits : ∀ call ∈ calls, call.Fits) (hforce : store.force = false) (name : ResourceName)
    (dependencies : DependencyTable) (signature : Bytes) :
    let s := Session.run folder m calls
    let outcome := s.answer folder store name dependencies signature
    ((name.slot folder).Available s.machine → outcome.HadLocks) ∧
    (outcome.HadLocks → ∀ hit, outcome = .hit hit ↔
      ∃ artifact metadata, lastInserted name s.history = some (artifact, metadata) ∧
        metadata.matchesArtifact artifact = true ∧
        metadata.dependencies.entries.Perm dependencies.entries ∧ metadata.signature = signature ∧
        hit = ⟨(name.slot folder).artifact, artifact, metadata⟩) ∧
    (∀ call, call.Fits → s.Spares folder name call →
      let later := (s.step folder call).answer folder store name dependencies signature
      outcome.HadLocks → later.HadLocks → ∀ hit, later = .hit hit ↔ outcome = .hit hit) := by
  intro s outcome
  have hkept : s.Kept folder := hfresh.kept.run hfits
  refine ⟨fun havailable e => lookup_available store havailable e,
    fun hlocks hit => hkept.hit_iff hforce hlocks hit, ?_⟩
  intro call hcall hspares later hbefore hafter hit
  have hlater := (hkept.step call hcall).hit_iff hforce hafter hit
  rw [hspares.lastInserted] at hlater
  exact hlater.trans (hkept.hit_iff hforce hbefore hit).symm

end

section

attribute [local instance] Wire.Memory.addressSpace

/-- What was inserted twice is found, whatever was refused beside it. -/
theorem hit_of_session :
    let name : ResourceName := ⟨"a", by decide⟩
    let other : ResourceName := ⟨"b", by decide⟩
    let metadata := Metadata.ofArtifact ⟨[]⟩ [1] [2, 3]
    let calls : List Call := [.insert {} name [2] (.ofArtifact ⟨[]⟩ [] [2]),
      .insert {} name [2, 3] metadata, .acquire "c/b.o.lock" .exclusive .once,
      .insert ⟨.once, false⟩ other [4] metadata, .release 0, .insert {} name [2, 3] metadata]
    (Session.run "c" .blank calls).answer "c" {} name ⟨[]⟩ [1] = .hit ⟨"c/a.o", [2, 3], metadata⟩ := by
  intro name other metadata calls
  have hfits : ∀ call ∈ calls, call.Fits := by decide +kernel
  have hforce : Store.force {} = false := rfl
  obtain ⟨-, hhit, -⟩ := session_refines_map Machine.blank_fresh hfits hforce name ⟨[]⟩ [1]
  refine (hhit ?_ _).mpr ⟨[2, 3], metadata, ?_, ?_, .refl _, rfl, ?_⟩
  · have hmiss : ((Session.run "c" .blank calls).answer "c" {} name ⟨[]⟩ [1]).missReason? = none := by
      decide +kernel
    intro e he
    rw [he] at hmiss
    cases hmiss
  · decide +kernel
  · decide +kernel
  · decide +kernel

end

end ScriptCache
