import Mathlib
import ScriptCache.Machine.Routine

/-! Open files and their locks, action by action.

An action touches the open files it names and adds at most one, or it lets time pass
(`touched_or_passed`), and the passing of time closes files that were left to others
(`frame_perform`). Whatever is done, the locks on one
node never exclude each other (`LocksApart.perform`): a lock is granted only where no other
open file holds one that excludes it, and nothing else makes locks. -/
namespace ScriptCache

namespace LockMode

theorem excludes_comm (a b : LockMode) : a.excludes b = b.excludes a := by
  cases a <;> cases b <;> rfl

theorem excludes_exclusive (mode : LockMode) : mode.excludes exclusive = true := by
  cases mode <;> rfl

end LockMode

namespace Machine

variable {m m' : Machine}

/-! ### The table of open files -/

theorem lt_of_file? {handle : Handle} {file : OpenFile} (h : m.file? handle = some file) :
    handle < m.files.length := by
  by_contra hge
  simp [file?, List.getElem?_eq_none (Nat.le_of_not_lt hge)] at h

theorem file?_setFile (m : Machine) (handle other : Handle) (file : Option OpenFile) :
    (m.setFile handle file).file? other =
      if other = handle ∧ handle < m.files.length then file else m.file? other := by
  simp only [file?, setFile, List.getElem?_set]
  by_cases hother : other = handle
  · subst hother
    by_cases hlt : other < m.files.length
    · simp [hlt]
    · simp [hlt]
  · simp [hother, Ne.symm hother]

theorem file?_setFile_of_some {handle : Handle} {old : OpenFile} (h : m.file? handle = some old)
    (other : Handle) (file : Option OpenFile) :
    (m.setFile handle file).file? other = if other = handle then file else m.file? other := by
  rw [file?_setFile]
  simp [lt_of_file? h]

theorem file?_addFile (m : Machine) (file : OpenFile) (other : Handle) :
    (m.addFile file).2.file? other =
      if other = m.files.length then some file else m.file? other := by
  simp only [file?, addFile]
  rcases Nat.lt_trichotomy other m.files.length with hlt | rfl | hgt
  · rw [List.getElem?_append_left hlt, if_neg (Nat.ne_of_lt hlt)]
  · simp
  · rw [List.getElem?_eq_none (by simpa using hgt), if_neg (Nat.ne_of_gt hgt),
      List.getElem?_eq_none (Nat.le_of_lt hgt)]

theorem file?_close (m : Machine) (handle other : Handle) :
    (m.close handle).file? other = if other = handle then none else m.file? other := by
  rw [close, file?_setFile]
  by_cases hother : other = handle
  · by_cases hlt : handle < m.files.length
    · simp [hother, hlt]
    · simp [hother, hlt, file?]
  · simp [hother]

/-- The machine with another disk has the same open files. -/
@[simp] theorem file?_disk (m : Machine) (disk : Disk) (handle : Handle) :
    { m with disk }.file? handle = m.file? handle := rfl

theorem blocked_iff {handle : Handle} {node : NodeId} {mode : LockMode} :
    m.blocked handle node mode = true ↔
      ∃ other file held, other ≠ handle ∧ m.file? other = some file ∧ file.node = node ∧
        file.lock = some held ∧ held.excludes mode = true := by
  simp only [blocked, List.any_eq_true, Bool.and_eq_true, bne_iff_ne]
  constructor
  · rintro ⟨⟨file, other⟩, hmem, hne, hmatch⟩
    have hget : m.files[other]? = some file := by
      simpa using List.mem_zipIdx_iff_getElem?.mp hmem
    cases file with
    | none => cases hmatch
    | some file =>
      simp only [Bool.and_eq_true, beq_iff_eq, Option.any_eq_true] at hmatch
      obtain ⟨hnode, held, hlock, hexcludes⟩ := hmatch
      exact ⟨other, file, held, hne, by simp [file?, hget], hnode, hlock, hexcludes⟩
  · rintro ⟨other, file, held, hne, hfile, hnode, hlock, hexcludes⟩
    refine ⟨(some file, other), ?_, hne, by simp [hnode, hlock, hexcludes]⟩
    rw [List.mem_zipIdx_iff_getElem?]
    have hlt := lt_of_file? hfile
    simp only [file?, List.getElem?_eq_getElem hlt, Option.join_some] at hfile
    simp [List.getElem?_eq_getElem hlt, hfile]

/-! ### Time -/

theorem file?_closeAll (releases : List (Nat × Handle)) (m : Machine) (handle : Handle) :
    (releases.foldl (fun m release => m.close release.2) m).file? handle =
      if handle ∈ releases.map Prod.snd then none else m.file? handle := by
  induction releases generalizing m with
  | nil => simp
  | cons release releases ih =>
    rw [List.foldl_cons, ih, file?_close]
    by_cases hrest : handle ∈ releases.map Prod.snd
    · simp [hrest]
    · by_cases hfirst : handle = release.2 <;> simp [hrest, hfirst]

theorem closeAll_fields (releases : List (Nat × Handle)) (m : Machine) :
    (releases.foldl (fun m release => m.close release.2) m).disk = m.disk ∧
      (releases.foldl (fun m release => m.close release.2) m).releases = m.releases ∧
      (releases.foldl (fun m release => m.close release.2) m).files.length = m.files.length := by
  induction releases generalizing m with
  | nil => exact ⟨rfl, rfl, rfl⟩
  | cons release releases ih =>
    obtain ⟨hdisk, hreleases, hlength⟩ := ih (m.close release.2)
    refine ⟨hdisk, hreleases, ?_⟩
    rw [List.foldl_cons, hlength]
    simp [close, setFile]

@[simp] theorem disk_pass (m : Machine) (span : Nat) : (m.pass span).disk = m.disk :=
  (closeAll_fields _ _).1

theorem file?_pass (m : Machine) (span : Nat) (handle : Handle) :
    (m.pass span).file? handle =
      if handle ∈ (m.releases.filter fun release => release.1 ≤ m.clock + span).map Prod.snd
      then none else m.file? handle :=
  file?_closeAll _ _ _

/-- A file that is open after some time was open before. -/
theorem file?_of_pass {m : Machine} {span : Nat} {handle : Handle} {file : OpenFile}
    (h : (m.pass span).file? handle = some file) : m.file? handle = some file := by
  rw [file?_pass] at h
  split at h
  · cases h
  · exact h

/-! ### What actions do to open files -/

/-- Whether a machine came from another by touching some of its open files only, by opening
more, and by closings that fell due. -/
structure Frame (touched : List Handle) (m m' : Machine) : Prop where
  length : m.files.length ≤ m'.files.length
  file : ∀ handle, handle < m.files.length → handle ∉ touched →
    m'.file? handle = m.file? handle ∨
      handle ∈ m.releases.map Prod.snd ∧ m'.file? handle = none
  releases : ∀ release ∈ m'.releases, release ∈ m.releases

end Machine

/-- The open files that an action names. -/
def Action.handles : Action → List Handle
  | closeFile handle | tryLock handle _ | unlock handle | readRest handle | isRegular handle
  | setLength handle _ | write handle _ | sync handle => [handle]
  | copyMode source target => [source, target]
  | _ => []

namespace Machine

variable {m m' : Machine}

/-- An open file that nobody else is to close is kept. -/
theorem Frame.kept {touched : List Handle} (h : Frame touched m m') {handle : Handle}
    (hlt : handle < m.files.length) (htouched : handle ∉ touched)
    (hreleases : handle ∉ m.releases.map Prod.snd) : m'.file? handle = m.file? handle :=
  (h.file handle hlt htouched).resolve_right fun hclosed => hreleases hclosed.1

theorem Frame.mono {touched touched' : List Handle} (h : Frame touched m m')
    (hsub : ∀ handle ∈ touched, handle ∈ touched') : Frame touched' m m' :=
  ⟨h.length, fun handle hlt hnot => h.file handle hlt fun hmem => hnot (hsub handle hmem),
    h.releases⟩

/-- What no action changes: what programs do, and what may be opened. -/
def setting (m : Machine) : Launcher × Refusals :=
  (m.launcher, m.refuses)

/-- Whether a machine came from another in no time, by touching some of its open files only and by
opening more. -/
structure Touched (touched : List Handle) (m m' : Machine) : Prop where
  length : m.files.length ≤ m'.files.length
  file : ∀ handle, handle < m.files.length → handle ∉ touched → m'.file? handle = m.file? handle
  clock : m'.clock = m.clock
  releases : m'.releases = m.releases
  setting : m'.setting = m.setting

theorem touched_setFile (m : Machine) (handle : Handle) (file : Option OpenFile) :
    Touched [handle] m (m.setFile handle file) := by
  refine ⟨by simp [setFile], fun other _ hother => ?_, rfl, rfl, rfl⟩
  have hne : ¬ (other = handle ∧ handle < m.files.length) := fun h => hother (by simp [h.1])
  rw [file?_setFile, if_neg hne]

theorem touched_addFile (m : Machine) (file : OpenFile) (touched : List Handle) :
    Touched touched m (m.addFile file).2 := by
  refine ⟨by simp [addFile], fun other hlt _ => ?_, rfl, rfl, rfl⟩
  rw [file?_addFile, if_neg (Nat.ne_of_lt hlt)]

theorem Touched.of_disk {touched : List Handle} {disk : Disk}
    (h : Touched touched { m with disk } m') : Touched touched m m' :=
  ⟨h.length, h.file, h.clock, h.releases, h.setting⟩

theorem touched_disk (m : Machine) (disk : Disk) (touched : List Handle) :
    Touched touched m { m with disk } :=
  ⟨Nat.le_refl _, fun _ _ _ => rfl, rfl, rfl, rfl⟩

theorem touched_changeDisk (m : Machine) (result : Except SysError Disk) (touched : List Handle) :
    Touched touched m (m.changeDisk result).2 := by
  cases result with
  | ok disk => exact touched_disk m disk touched
  | error e => exact touched_disk m m.disk touched

/-- An opening fails and leaves everything as it is, or it adds a file to the open ones, once the
disk is as it takes it. -/
theorem openFile_cases (m : Machine) (path : String) (mode : OpenMode) :
    (∃ e, m.perform (.openFile path mode) = (.error e, m)) ∨
      ∃ disk node, m.perform (.openFile path mode) = (.ok m.files.length,
        (({ m with disk } : Machine).addFile { node, appends := mode == .append }).2) := by
  show (∃ e, m.openFile path mode = _) ∨ ∃ disk node, m.openFile path mode = _
  unfold openFile
  dsimp only
  split
  · exact .inl ⟨_, rfl⟩
  · exact .inr ⟨_, _, rfl⟩

/-- Every action touches the open files it names and no others, or it lets some time pass. -/
theorem touched_or_passed (m : Machine) (action : Action) :
    Touched action.handles m (m.perform action).2 ∨
      ∃ disk span, (m.perform action).2 = ({ m with disk } : Machine).pass span := by
  cases action with
  | sleep span => exact .inr ⟨m.disk, span.nanoseconds, rfl⟩
  | launch program args input =>
    simp only [perform, launch]
    split
    · exact .inl (touched_disk m _ _)
    · exact .inr ⟨_, _, rfl⟩
  | say event => exact .inl ⟨Nat.le_refl _, fun _ _ _ => rfl, rfl, rfl, rfl⟩
  | fileExists | folderExists | isRegular | sync => exact .inl (touched_disk m m.disk _)
  | makeFolder path => exact .inl (touched_changeDisk m _ _)
  | makeLink path target => exact .inl (touched_changeDisk m _ _)
  | unlink path => exact .inl (touched_changeDisk m _ _)
  | openFile path mode =>
    obtain ⟨e, hfailed⟩ | ⟨disk, node, hopened⟩ := openFile_cases m path mode
    · rw [hfailed]
      exact .inl (touched_disk m m.disk _)
    · rw [hopened]
      exact .inl (touched_addFile _ _ _).of_disk
  | closeFile handle => exact .inl (touched_setFile m handle none)
  | tryLock handle mode =>
    simp only [perform, tryLock]
    split
    · exact .inl (touched_disk m m.disk _)
    · split
      · exact .inl (touched_disk m m.disk _)
      · exact .inl (touched_setFile m handle _)
  | unlock handle =>
    simp only [perform, unlock]
    split
    · exact .inl (touched_disk m m.disk _)
    · exact .inl (touched_setFile m handle _)
  | readRest handle =>
    simp only [perform, readRest]
    split
    · exact .inl (touched_disk m m.disk _)
    · split
      · exact .inl (touched_setFile m handle _)
      all_goals exact .inl (touched_disk m m.disk _)
  | setLength handle length =>
    simp only [perform, setLength]
    split
    · exact .inl (touched_disk m m.disk _)
    · split
      · exact .inl (touched_disk m _ _)
      · exact .inl (touched_disk m m.disk _)
  | write handle bytes =>
    simp only [perform, write]
    split
    · exact .inl (touched_disk m m.disk _)
    · split
      · exact .inl (touched_disk m m.disk _)
      · split
        · exact .inl (touched_setFile _ handle _).of_disk
        · exact .inl (touched_disk m m.disk _)
        · exact .inl (touched_disk m m.disk _)
        · exact .inl (touched_disk m m.disk _)
  | copyMode source target =>
    simp only [perform, copyMode]
    split
    · exact .inl (touched_disk m _ _)
    · exact .inl (touched_disk m m.disk _)

theorem Touched.frame {touched : List Handle} (h : Touched touched m m') : Frame touched m m' :=
  ⟨h.length, fun handle hlt hnot => .inl (h.file handle hlt hnot),
    fun _ hmem => h.releases ▸ hmem⟩

theorem frame_pass (m : Machine) (span : Nat) (touched : List Handle) :
    Frame touched m (m.pass span) := by
  refine ⟨?_, fun handle _ _ => ?_, fun release h => ?_⟩
  · rw [pass, (closeAll_fields _ _).2.2]
  · rw [file?_pass]
    split
    · rename_i hmem
      obtain ⟨release, hrelease, rfl⟩ := List.mem_map.mp hmem
      exact .inr ⟨List.mem_map_of_mem (List.mem_of_mem_filter hrelease), rfl⟩
    · exact .inl rfl
  · rw [pass, (closeAll_fields _ _).2.1] at h
    exact List.mem_of_mem_filter h

theorem Frame.of_disk {touched : List Handle} {disk : Disk} (h : Frame touched { m with disk } m') :
    Frame touched m m' :=
  ⟨h.length, h.file, h.releases⟩

/-- Besides the files that an action names, only those change that are due to be closed. -/
theorem frame_perform (m : Machine) (action : Action) :
    Frame action.handles m (m.perform action).2 := by
  rcases touched_or_passed m action with htouched | ⟨disk, span, hpassed⟩
  · exact htouched.frame
  · rw [hpassed]
    exact (frame_pass _ span _).of_disk

/-- A file that is opened is a new one, the last. -/
theorem perform_openFile {path : String} {mode : OpenMode} {handle : Handle}
    (h : (m.perform (.openFile path mode)).1 = .ok handle) : handle = m.files.length ∧
      ∃ file, (m.perform (.openFile path mode)).2.files = m.files ++ [some file] := by
  obtain ⟨e, hfailed⟩ | ⟨disk, node, hopened⟩ := openFile_cases m path mode
  · rw [hfailed] at h
    cases h
  · rw [hopened] at h ⊢
    cases h
    exact ⟨rfl, _, rfl⟩

theorem perform_openFile_error {path : String} {mode : OpenMode} {e : SysError}
    (h : (m.perform (.openFile path mode)).1 = .error e) :
    (m.perform (.openFile path mode)).2 = m := by
  obtain ⟨e', hfailed⟩ | ⟨disk, node, hopened⟩ := openFile_cases m path mode
  · rw [hfailed]
  · rw [hopened] at h
    cases h

/-- Nothing else opens files. -/
theorem length_perform {action : Action} (h : ∀ path mode, action ≠ .openFile path mode) :
    (m.perform action).2.files.length = m.files.length := by
  cases action with
  | openFile path mode => exact absurd rfl (h path mode)
  | say | fileExists | folderExists | isRegular | sync => rfl
  | makeFolder | makeLink | unlink =>
    simp only [perform, changeDisk]
    split <;> rfl
  | closeFile handle => simp [perform, close, setFile]
  | tryLock handle mode =>
    simp only [perform, tryLock]
    split
    · rfl
    · split <;> simp [setFile]
  | unlock handle =>
    simp only [perform, unlock]
    split <;> simp [setFile]
  | readRest handle =>
    simp only [perform, readRest]
    split
    · rfl
    · split <;> simp [setFile]
  | setLength handle length =>
    simp only [perform, setLength]
    split
    · rfl
    · split <;> rfl
  | write handle bytes =>
    simp only [perform, write]
    split
    · rfl
    · split
      · rfl
      · split <;> simp [setFile]
  | copyMode source target =>
    simp only [perform, copyMode]
    split <;> rfl
  | launch program args input =>
    simp only [perform, launch]
    split
    · rfl
    · exact (closeAll_fields _ _).2.2
  | sleep span => exact (closeAll_fields _ _).2.2

/-! ### Locks -/

/-- Whether no two open files hold locks on one node that exclude each other. -/
structure LocksApart (m : Machine) : Prop where
  apart : ∀ {handle handle' file file' mode mode'}, handle ≠ handle' →
    m.file? handle = some file → m.file? handle' = some file' → file.node = file'.node →
    file.lock = some mode → file'.lock = some mode' → mode.excludes mode' = false

/-- Whether every lock of a machine was there in another. -/
structure Loosens (m m' : Machine) : Prop where
  before : ∀ {handle file mode}, m'.file? handle = some file → file.lock = some mode →
    ∃ before, m.file? handle = some before ∧ before.node = file.node ∧ before.lock = some mode

theorem LocksApart.loosens (h : m.LocksApart) (hloosens : m.Loosens m') : m'.LocksApart := by
  refine ⟨fun {handle handle' file file' mode mode'} hne hfile hfile' hnode hlock hlock' => ?_⟩
  obtain ⟨before, hbefore, hnode₁, hlock₁⟩ := hloosens.before hfile hlock
  obtain ⟨before', hbefore', hnode₂, hlock₂⟩ := hloosens.before hfile' hlock'
  exact h.apart hne hbefore hbefore' (by rw [hnode₁, hnode₂, hnode]) hlock₁ hlock₂

theorem Loosens.of_files (h : m'.files = m.files) : m.Loosens m' := by
  refine ⟨fun {handle file mode} hfile hlock => ?_⟩
  rw [file?, h] at hfile
  exact ⟨file, hfile, rfl, hlock⟩

/-- An open file may lose its lock, be closed, or stand elsewhere. -/
theorem loosens_setFile {handle : Handle} {old : OpenFile} (h : m.file? handle = some old)
    {new : Option OpenFile} (hnew : ∀ file ∈ new, file.lock = none ∨
      file.node = old.node ∧ file.lock = old.lock) : m.Loosens (m.setFile handle new) := by
  refine ⟨fun {other file mode} hfile hlock => ?_⟩
  rw [file?_setFile_of_some h] at hfile
  split at hfile
  · rename_i hother
    subst hother
    rcases hnew file hfile with hnone | ⟨hnode, hsame⟩
    · rw [hnone] at hlock
      cases hlock
    · exact ⟨old, h, hnode.symm, hsame ▸ hlock⟩
  · exact ⟨file, hfile, rfl, hlock⟩

theorem loosens_written {handle : Handle} {old : OpenFile} (h : m.file? handle = some old)
    (disk : Disk) (offset : Nat) :
    m.Loosens ({ m with disk }.setFile handle (some { old with offset })) :=
  ⟨(loosens_setFile h (by simp)).before⟩

theorem loosens_close (m : Machine) (handle : Handle) : m.Loosens (m.close handle) := by
  refine ⟨fun {other file mode} hfile hlock => ?_⟩
  rw [file?_close] at hfile
  split at hfile
  · cases hfile
  · exact ⟨file, hfile, rfl, hlock⟩

theorem loosens_addFile (m : Machine) {file : OpenFile} (h : file.lock = none) :
    m.Loosens (m.addFile file).2 := by
  refine ⟨fun {other file' mode} hfile hlock => ?_⟩
  rw [file?_addFile] at hfile
  split at hfile
  · cases hfile
    rw [h] at hlock
    cases hlock
  · exact ⟨file', hfile, rfl, hlock⟩

theorem loosens_pass (m : Machine) (span : Nat) : m.Loosens (m.pass span) :=
  ⟨fun {_ file _} hfile hlock => ⟨file, file?_of_pass hfile, rfl, hlock⟩⟩

theorem Loosens.of_disk {disk : Disk} (h : Loosens { m with disk } m') : m.Loosens m' :=
  ⟨h.before⟩

/-- A lock is granted only beside locks that do not exclude it. -/
theorem LocksApart.tryLock (h : m.LocksApart) (handle : Handle) (mode : LockMode) :
    (m.tryLock handle mode).2.LocksApart := by
  simp only [Machine.tryLock]
  cases hopen : m.file? handle with
  | none => exact h
  | some own =>
    by_cases hblocked : m.blocked handle own.node mode
    · simpa only [if_pos hblocked] using h
    simp only [if_neg hblocked]
    have hfree : ∀ {other file held}, other ≠ handle → m.file? other = some file →
        file.node = own.node → file.lock = some held → held.excludes mode = false := by
      intro other file held hne hfile hnode hlock
      by_contra hexcludes
      exact hblocked (blocked_iff.mpr ⟨other, file, held, hne, hfile, hnode, hlock, by simpa using hexcludes⟩)
    refine ⟨fun {a b file file' held held'} hne hfile hfile' hnode hlock hlock' => ?_⟩
    rw [file?_setFile_of_some hopen] at hfile hfile'
    split at hfile <;> split at hfile'
    · rename_i ha hb
      exact absurd (ha.trans hb.symm) hne
    · rename_i ha hb
      cases hfile
      cases hlock
      rw [LockMode.excludes_comm]
      exact hfree hb hfile' hnode.symm hlock'
    · rename_i ha hb
      cases hfile'
      cases hlock'
      exact hfree ha hfile hnode hlock
    · exact h.apart hne hfile hfile' hnode hlock hlock'

/-- Whatever is done, the locks on one node do not exclude each other. -/
theorem LocksApart.perform (h : m.LocksApart) (action : Action) :
    (m.perform action).2.LocksApart := by
  cases action with
  | tryLock handle mode => exact h.tryLock handle mode
  | say | fileExists | folderExists | isRegular | sync => exact h.loosens (.of_files rfl)
  | makeFolder path =>
    simp only [Machine.perform, changeDisk]
    split <;> exact h.loosens (.of_files rfl)
  | makeLink path target =>
    simp only [Machine.perform, changeDisk]
    split <;> exact h.loosens (.of_files rfl)
  | unlink path =>
    simp only [Machine.perform, changeDisk]
    split <;> exact h.loosens (.of_files rfl)
  | openFile path mode =>
    obtain ⟨e, hfailed⟩ | ⟨disk, node, hopened⟩ := openFile_cases m path mode
    · rw [hfailed]
      exact h
    · rw [hopened]
      exact h.loosens (loosens_addFile _ rfl).of_disk
  | closeFile handle => exact h.loosens (loosens_close m handle)
  | unlock handle =>
    simp only [Machine.perform, unlock]
    split
    · exact h
    · rename_i old hold
      exact h.loosens (loosens_setFile hold (by simp))
  | readRest handle =>
    simp only [Machine.perform, readRest]
    split
    · exact h
    · rename_i old hold
      split
      · exact h.loosens (loosens_setFile hold (by simp))
      all_goals exact h
  | setLength handle length =>
    simp only [Machine.perform, setLength]
    split
    · exact h
    · split <;> exact h.loosens (.of_files rfl)
  | write handle bytes =>
    simp only [Machine.perform, write]
    split
    · exact h
    · rename_i old hold
      split
      · exact h
      · split
        · exact h.loosens (loosens_written hold _ _)
        · exact h
        · exact h
        · exact h
  | copyMode source target =>
    simp only [Machine.perform, copyMode]
    split <;> exact h.loosens (.of_files rfl)
  | launch program args input =>
    simp only [Machine.perform, launch]
    split
    · exact h.loosens (.of_files rfl)
    · exact h.loosens (loosens_pass _ _).of_disk
  | sleep span => exact h.loosens (loosens_pass m _)

end Machine

end ScriptCache
