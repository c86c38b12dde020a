import Mathlib
import ScriptCache.Proofs.Store.Party

/-! Actions that leave the slots as they are.

Most of what a party does is harmless, whoever else is at work: it looks, waits, asks for locks
and gives them up, opens files to read them, makes a file or a folder that was missing. All such
actions keep what a ledger says (`Sound.harmless`), and what a party knows of files that an
action does not touch outlasts it just as it outlasts what others do (`rely_harmless`). -/
namespace ScriptCache

namespace Action

/-- Whether an action leaves every slot in a cache folder as it is. -/
def Harmless (path : String) : Action → Prop
  | say _ | fileExists _ | folderExists _ | closeFile _ | tryLock .. | unlock _ | readRest _
  | isRegular _ | sync _ | sleep _ => True
  | makeFolder above => above ∈ Path.ancestors path
  | openFile _ mode => mode = .read ∨ mode = .append ∨ mode = .write
  | _ => False

variable {path : String} {action : Action}

section

variable [Wire.Memory]

theorem Harmless.stage (h : action.Harmless path) (i : Insertion) (before : List Deed)
    (reply : action.Reply) : i.stage (⟨action, reply⟩ :: before) = i.stage before := by
  by_cases hunlocked : before.any Deed.unlocks
  · exact i.stage_of_unlocked hunlocked [_]
  · rw [i.stage_cons (by simpa using hunlocked)]
    cases action with
    | openFile other mode =>
      rcases h with rfl | rfl | rfl <;> cases i.stage before <;> cases reply <;> rfl
    | unlink | setLength | write | copyMode | launch | makeLink => exact h.elim
    | _ => cases i.stage before <;> rfl

theorem Harmless.note (h : action.Harmless path) (ledger : Ledger) (i : Option Insertion)
    (before : List Deed) (reply : action.Reply) :
    ledger.note i before ⟨action, reply⟩ = ledger := by
  cases i with
  | none => rfl
  | some i => exact Ledger.note_of_stage (h.stage i before reply) ledger

theorem Harmless.perform (h : action.Harmless path) (s : Tracked) (i : Option Insertion)
    (t : Trace) : s.perform i t action = ⟨(s.machine.perform action).2, s.ledger⟩ := by
  rw [Tracked.perform, h.note]

end

/-- The disk keeps all it had; at most one empty file is new, or one folder on the way to a
cache folder that is missing. -/
theorem Harmless.disk (h : action.Harmless path) (m : Machine) :
    (m.perform action).2.disk = m.disk ∨ m.disk.Added (.file []) (m.perform action).2.disk ∨
      m.disk.Added (.folder []) (m.perform action).2.disk ∧
        ∀ folder, ¬ m.disk.Leads path folder := by
  cases action with
  | say | fileExists | folderExists | closeFile | isRegular | sync => exact .inl rfl
  | sleep span => exact .inl (Machine.disk_pass m span.nanoseconds)
  | tryLock handle mode =>
    left
    simp only [Machine.perform, Machine.tryLock]
    split
    · rfl
    · split <;> rfl
  | unlock handle =>
    left
    simp only [Machine.perform, Machine.unlock]
    split <;> rfl
  | readRest handle =>
    left
    simp only [Machine.perform, Machine.readRest]
    split
    · rfl
    · split <;> rfl
  | makeFolder above =>
    simp only [Machine.perform]
    cases hmake : m.disk.makeFolder above with
    | error e => exact .inl rfl
    | ok disk =>
      refine .inr (.inr ⟨Disk.makeFolder_added hmake, fun folder hleads => ?_⟩)
      obtain ⟨e, he⟩ := hleads.makeFolder_ancestor h
      rw [hmake] at he
      cases he
  | openFile other mode =>
    have hkept : mode ≠ .replace := by rcases h with rfl | rfl | rfl <;> decide
    rw [m.openFile_kept other mode hkept]
    cases hopening : m.opening other mode with
    | error e => exact .inl rfl
    | ok made =>
      show made.2 = m.disk ∨ m.disk.Added (.file []) made.2 ∨ _
      rcases h with rfl | rfl | rfl
      · exact .inl (Machine.opening_read hopening)
      · obtain ⟨-, hensured⟩ := (Machine.opening_made .append (by decide) (by decide)).mp hopening
        exact (Disk.ensureFile_added hensured).imp_right .inl
      · obtain ⟨-, hensured⟩ := (Machine.opening_made .write (by decide) (by decide)).mp hopening
        exact (Disk.ensureFile_added hensured).imp_right .inl
  | unlink | setLength | write | copyMode | launch | makeLink => exact h.elim

theorem Harmless.leads (h : action.Harmless path) {m : Machine} {folder : NodeId}
    (hleads : m.disk.Leads path folder) : (m.perform action).2.disk.Leads path folder := by
  rcases h.disk m with hsame | hadded | ⟨-, hmissing⟩
  · rwa [hsame]
  · exact hleads.grows hadded.grows
  · exact absurd hleads (hmissing folder)

theorem Harmless.cut (h : action.Harmless path) {part : Action} (hcut : action.Cut part) :
    part = action := by
  cases hcut with
  | whole => rfl
  | part => exact h.elim

end Action

section

variable [Wire.Memory] {path : String} {action : Action} {own : List Handle} {s : Tracked}

theorem Sound.frame {touched : List Handle} {m' : Machine} (h : Sound path s)
    (hframe : Machine.Frame touched s.machine m') :
    ∀ release ∈ m'.releases, release.2 < m'.files.length :=
  fun release hrelease =>
    Nat.lt_of_lt_of_le (h.releases release (hframe.releases release hrelease)) hframe.length

/-- What a ledger says stays true. -/
theorem Sound.harmless (h : Sound path s) (haction : action.Harmless path) :
    Sound path ⟨(s.machine.perform action).2, s.ledger⟩ := by
  refine ⟨h.locks.perform action, h.frame (Machine.frame_perform s.machine action),
    h.unrestricted.perform action, ?_⟩
  rcases haction.disk s.machine with hsame | hadded | ⟨hadded, hmissing⟩
  · show Site path (s.machine.perform action).2.disk s.ledger
    rw [hsame]
    exact h.site
  · exact h.site.added_file hadded
  · exact h.site.added_folder hmissing hadded

/-- Files in the cache folder stay where they are. -/
theorem Action.Harmless.entries (haction : action.Harmless path) (h : Sound path s)
    {folder : NodeId} (hleads : s.machine.disk.Leads path folder) {name : String} {id : NodeId}
    (hentry : s.machine.disk.child? folder name = some id) :
    (s.machine.perform action).2.disk.child? folder name = some id := by
  obtain ⟨htidy, -⟩ := h.site.of_leads hleads
  rcases haction.disk s.machine with hsame | hadded | ⟨-, hmissing⟩
  · rw [hsame, hentry]
  · rcases htidy.child?_added hadded name with hsame | ⟨hnone, -⟩
    · rw [hsame, hentry]
    · rw [hnone] at hentry
      cases hentry
  · exact absurd hleads (hmissing folder)

/-- What a party knows of files that an action does not touch outlasts the action. -/
theorem rely_harmless (h : Sound path s) (howned : Owned own s.machine)
    (haction : action.Harmless path) (happart : ∀ handle ∈ own, handle ∉ action.handles) :
    Rely path own s ⟨(s.machine.perform action).2, s.ledger⟩ := by
  have hframe := Machine.frame_perform s.machine action
  exact {
    files := fun handle hown => hframe.kept (howned handle hown).1 (happart handle hown)
      (howned handle hown).2
    leads := haction.leads
    entries := fun hleads hentry _ => haction.entries h hleads hentry
    length := hframe.length
    releases := hframe.releases
    info := fun hleads _ hentry => haction.entries h hleads hentry
    ledger := fun _ => rfl }

theorem guarantee_harmless (h : Sound path s) (haction : action.Harmless path)
    (hown : ∀ handle ∈ action.handles, handle ∈ own) :
    Guarantee path own s ⟨(s.machine.perform action).2, s.ledger⟩ := by
  have hframe := Machine.frame_perform s.machine action
  exact {
    frame := hframe.mono hown
    leads := haction.leads
    entries := fun hleads hentry _ => haction.entries h hleads hentry
    info := fun hleads hentry => .inl (haction.entries h hleads hentry)
    ledger := fun _ => .inl rfl }

theorem Action.Harmless.inTurn (haction : action.Harmless path) (i : Option Insertion) (t : Trace)
    (s : Tracked) : InTurn i t s action where
  first insertion _ other h := by
    subst h
    exact haction.elim
  current insertion _ _ h := absurd (haction.stage insertion _ _) h

end

namespace Triple

variable [Wire.Memory] {path : String} {i : Option Insertion}
  {parting : Trace → Tracked → Prop} {P : Trace → Tracked → Prop}

/-- A harmless action on files of one's own. -/
theorem harmless {action : Action} {Q : action.Reply → Trace → Tracked → Prop}
    (hP : Stable path P) (haction : action.Harmless path)
    (hown : ∀ {t s}, P t s → ∀ handle ∈ action.handles, handle ∈ Trace.opened t)
    (hparting : ∀ {t s}, Sound path s → P t s → ∀ handle, action = .unlock handle → parting t s)
    (hQ : ∀ {t s}, Sound path s → Owned (Trace.opened t) s.machine → P t s →
      Q (s.machine.perform action).1 (s.moment action :: t)
        ⟨(s.machine.perform action).2, s.ledger⟩) :
    Triple path i parting P (Routine.perform action) Q := by
  refine Triple.act hP fun t s hs howned hPs => ⟨hparting hs hPs,
    haction.inTurn i t s, fun part hcut => ?_, ?_⟩
  · obtain rfl := haction.cut hcut
    rw [haction.perform]
    exact ⟨hs.harmless haction, guarantee_harmless hs haction (hown hPs)⟩
  · rw [haction.perform]
    exact hQ hs howned hPs

end Triple

end ScriptCache
