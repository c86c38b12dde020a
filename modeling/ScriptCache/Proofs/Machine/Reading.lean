import Mathlib
import ScriptCache.Machine.Files
import ScriptCache.Proofs.Machine.OpenFiles

/-! What reading a whole file comes to, and what saying something does: nothing but that it is
said (`Machine.Spoken`). -/
namespace ScriptCache

/-! ### What is read -/

/-- What is read of an open node, unless there is no end to it. -/
def Disk.bytes? (d : Disk) (node : NodeId) : Option (Except SysError Bytes) :=
  match d.node? node with
  | some (.file content) => some (.ok content)
  | some (.folder _) => some (.error .isFolder)
  | some (.device kind) => if kind.endless then none else some (.ok [])
  | some (.link _) | none => some (.ok [])

/-- What a routine is answered that reads an open node: where there is no end to it, that there is
no room for what was read. -/
def Disk.bytes (d : Disk) (node : NodeId) : Except SysError Bytes :=
  (d.bytes? node).getD (.error .outOfMemory)

/-- What is read at a path, unless there is no end to it. -/
def Disk.contents? (d : Disk) (path : String) : Option (Except SysError Bytes) :=
  match d.existing path false with
  | .error e => some (.error e)
  | .ok node => d.bytes? node

/-- The node behind a path that is to be read, if reading it is allowed. -/
def Machine.existing (m : Machine) (path : String) : Except SysError NodeId :=
  (m.opening path .read).map Prod.fst

/-- What is read at a path, if reading it is allowed, unless there is no end to it. -/
def Machine.contents? (m : Machine) (path : String) : Option (Except SysError Bytes) :=
  match m.existing path with
  | .error e => some (.error e)
  | .ok node => m.disk.bytes? node

/-- What a routine is answered that reads at a path. -/
def Machine.contents (m : Machine) (path : String) : Except SysError Bytes :=
  (m.contents? path).getD (.error .outOfMemory)

section

variable {m m' : Machine} {path : String} {handle : Handle} {file : OpenFile}

theorem Machine.existing_eq_ok {node : NodeId} : m.existing path = .ok node ↔
    m.refuses path .read = none ∧ m.disk.existing path false = .ok node := by
  simp only [existing, opening]
  cases m.refuses path .read with
  | some e => simp [Except.map]
  | none => cases m.disk.existing path false <;> simp [Except.map]

theorem Machine.contents?_eq (m : Machine) (path : String) : m.contents? path =
    match m.refuses path .read with
    | some e => some (.error e)
    | none => m.disk.contents? path := by
  simp only [contents?, existing, opening, Disk.contents?]
  cases m.refuses path .read with
  | some e => rfl
  | none => cases m.disk.existing path false <;> rfl

theorem Machine.contents?_eq_ok {content : Bytes} : m.contents? path = some (.ok content) ↔
    m.refuses path .read = none ∧ m.disk.contents? path = some (.ok content) := by
  rw [contents?_eq]
  cases m.refuses path .read <;> simp

theorem Machine.contents_eq_ok {content : Bytes} :
    m.contents path = .ok content ↔ m.contents? path = some (.ok content) := by
  rw [contents]
  cases m.contents? path <;> simp

/-- Whether and where a path is opened to be read depends on the disk and on what is refused. -/
theorem Machine.existing_of_same (hrefuses : m'.refuses = m.refuses) (hdisk : m'.disk = m.disk)
    (path : String) : m'.existing path = m.existing path := by
  simp only [existing, opening, hrefuses, hdisk]

theorem Machine.contents?_of_same (hrefuses : m'.refuses = m.refuses) (hdisk : m'.disk = m.disk)
    (path : String) : m'.contents? path = m.contents? path := by
  simp only [contents?, existing_of_same hrefuses hdisk, hdisk]

theorem Machine.contents_of_same (hrefuses : m'.refuses = m.refuses) (hdisk : m'.disk = m.disk)
    (path : String) : m'.contents path = m.contents path := by
  rw [contents, contents, contents?_of_same hrefuses hdisk]

theorem Machine.contents_eq (m : Machine) (path : String) :
    m.contents path = (m.existing path).bind m.disk.bytes := by
  rw [contents, contents?]
  cases m.existing path <;> rfl

/-- Opening to read makes nothing. -/
theorem Machine.opening_read {made : NodeId × Disk} (h : m.opening path .read = .ok made) :
    made.2 = m.disk := by
  simp only [opening] at h
  cases hrefuses : m.refuses path .read with
  | some e =>
    rw [hrefuses] at h
    cases h
  | none =>
    rw [hrefuses] at h
    cases hexisting : m.disk.existing path false with
    | error e =>
      rw [hexisting] at h
      cases h
    | ok node =>
      rw [hexisting] at h
      cases h
      rfl

/-- A way of opening that makes what is missing. -/
theorem Machine.opening_made (mode : OpenMode) {made : NodeId × Disk} (hread : mode ≠ .read)
    (hupdate : mode ≠ .update) : m.opening path mode = .ok made ↔
      m.refuses path mode = none ∧ m.disk.ensureFile path = .ok made := by
  simp only [opening]
  cases m.refuses path mode with
  | some e => simp
  | none => cases mode <;> first | contradiction | simp

theorem Machine.openFile_kept (m : Machine) (path : String) (mode : OpenMode)
    (h : mode ≠ .replace) : m.perform (.openFile path mode) =
      match m.opening path mode with
      | .error e => (.error e, m)
      | .ok (node, disk) => (.ok m.files.length,
        (({ m with disk } : Machine).addFile { node, appends := mode == OpenMode.append }).2) := by
  simp only [perform, openFile]
  cases m.opening path mode with
  | error e => rfl
  | ok made => cases mode <;> first | rfl | exact absurd rfl h

theorem Machine.openFile_read (m : Machine) (path : String) : m.perform (.openFile path .read) =
    match m.existing path with
    | .error e => (.error e, m)
    | .ok node => (.ok m.files.length, (m.addFile { node }).2) := by
  simp only [perform, openFile, existing, opening]
  cases m.refuses path .read with
  | some e => rfl
  | none => cases m.disk.existing path false <;> rfl

/-- Reading from the beginning gives all there is, if there is an end to it. -/
theorem Machine.readRest_start (hfile : m.file? handle = some file) (hstart : file.offset = 0) :
    (m.readRest handle).1 = m.disk.bytes file.node ∧ (m.readRest handle).2.disk = m.disk := by
  simp only [readRest, hfile, Disk.bytes, Disk.bytes?]
  cases m.disk.node? file.node with
  | none => simp
  | some node =>
    cases node with
    | file content => simp [hstart, setFile]
    | folder | link => simp
    | device kind => cases hendless : kind.endless <;> simp [hendless]

theorem Routine.run_perform_bind {α : Type} (action : Action) (f : action.Reply → Routine α)
    (m : Machine) :
    (Routine.perform action >>= f).run m = (f (m.perform action).1).run (m.perform action).2 := rfl

/-- Reading gives what is there, if there is an end to it, and leaves the disk as it is. -/
theorem read_run (path : String) (m : Machine) :
    ((Files.read path).run m).1 = m.contents path ∧ ((Files.read path).run m).2.disk = m.disk := by
  have hopen := m.openFile_read path
  rw [Files.read, Files.opened, Routine.run_perform_bind, Machine.contents_eq]
  cases hexisting : m.existing path with
  | error e =>
    rw [hexisting] at hopen
    rw [hopen]
    exact ⟨rfl, rfl⟩
  | ok node =>
    rw [hexisting] at hopen
    rw [hopen]
    have hfile : (m.addFile { node }).2.file? m.files.length = some { node } := by
      rw [Machine.file?_addFile, if_pos rfl]
    exact Machine.readRest_start hfile rfl

/-- Reading a file leaves the open files as they are. -/
theorem read_files (path : String) (m : Machine) (h : handle < m.files.length) :
    ((Files.read path).run m).2.file? handle = m.file? handle := by
  rw [Files.read, Files.opened, Routine.run_perform_bind]
  have hopen := m.openFile_read path
  cases hexisting : m.existing path with
  | error e =>
    rw [hexisting] at hopen
    rw [hopen]
    rfl
  | ok node =>
    rw [hexisting] at hopen
    rw [hopen]
    have hne : handle ≠ m.files.length := Nat.ne_of_lt h
    have hread : ((m.addFile { node }).2.readRest m.files.length).2.file? handle =
        m.file? handle := by
      have hkept : (m.addFile { node }).2.file? handle = m.file? handle := by
        rw [Machine.file?_addFile, if_neg hne]
      rw [Machine.readRest]
      split
      · exact hkept
      · split
        · rw [Machine.file?_setFile, if_neg fun heq => hne heq.1, hkept]
        all_goals exact hkept
    show (Machine.close _ m.files.length).file? handle = _
    rw [Machine.file?_close, if_neg hne]
    exact hread

end

/-! ### What is said -/

/-- Whether a machine is another one with something more said. -/
def Machine.Spoken (m m' : Machine) : Prop :=
  ∃ events, m' = { m with said := events ++ m.said }

section

variable {m m' m'' : Machine}

theorem Machine.Spoken.refl (m : Machine) : m.Spoken m :=
  ⟨[], rfl⟩

theorem Machine.Spoken.trans (h : m.Spoken m') (h' : m'.Spoken m'') : m.Spoken m'' := by
  obtain ⟨events, rfl⟩ := h
  obtain ⟨more, rfl⟩ := h'
  exact ⟨more ++ events, by simp only [List.append_assoc]⟩

theorem Machine.Spoken.disk (h : m.Spoken m') : m'.disk = m.disk := by
  obtain ⟨events, rfl⟩ := h
  rfl

theorem spoken_say (event : Event) (m : Machine) : m.Spoken ((Routine.say event).run m).2 :=
  ⟨[event], rfl⟩

theorem spoken_sayAll (events : List Event) (m : Machine) :
    m.Spoken ((Routine.sayAll events).run m).2 := by
  induction events generalizing m with
  | nil => exact .refl m
  | cons event events ih => exact (spoken_say event m).trans (ih _)

end

end ScriptCache
