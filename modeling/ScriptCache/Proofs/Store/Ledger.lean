import Mathlib
import ScriptCache.Proofs.Machine.Contents
import ScriptCache.Proofs.Machine.Faults
import ScriptCache.Proofs.Slot.InfoFrame
import ScriptCache.Proofs.Slot.Names
import ScriptCache.Slot.Store

/-! What stands in the slots of a cache folder.

An insertion goes through stages: the info file is removed, the artifact emptied and filled, a
new info file opened and written. The *ledger* keeps, for every name, the insertion that last
got past removing the info file, and the stage it is at. `Sound` ties a ledger to a machine on which
nothing is refused to who opens it: in every slot the files are as the stage has them, and an info
file that is not whole is illegible.

The stage of an insertion is read off what it did and was answered, and once it has given up a
lock it stays at its stage. -/
namespace ScriptCache

/-! ### What a party did -/

/-- An action with its reply. -/
structure Deed where
  action : Action
  reply : action.Reply

namespace Deed

/-- The file that was opened. -/
def opened? : Deed → Option Handle
  | ⟨.openFile _ _, .ok handle⟩ => some handle
  | _ => none

/-- Whether a path was freed of a file, or was free of one. -/
def removes (path : String) : Deed → Bool
  | ⟨.unlink other, .ok ()⟩ => other == path
  | ⟨.unlink other, .error .notFound⟩ => other == path
  | _ => false

def empties : Deed → Bool
  | ⟨.setLength _ length, .ok ()⟩ => length == 0
  | _ => false

def renews (path : String) : Deed → Bool
  | ⟨.openFile other .replace, .ok _⟩ => other == path
  | _ => false

/-- The bytes that were written. -/
def written? : Deed → Option Bytes
  | ⟨.write _ bytes, .ok ()⟩ => some bytes
  | _ => none

def unlocks : Deed → Bool
  | ⟨.unlock _, _⟩ => true
  | _ => false

end Deed

/-! ### Insertions and their stages -/

/-- An insertion: by whom, where, and what. -/
structure Insertion where
  party : Nat
  slot : Slot
  artifact : Bytes
  metadata : Metadata
  deriving DecidableEq

inductive Stage where
  /-- Nothing of the slot was changed yet. -/
  | untouched
  /-- No legible info file is there. -/
  | removed
  | emptied
  | filled
  | opened
  /-- The artifact and its info file are written. -/
  | whole
  deriving DecidableEq

/-- What a deed makes of a stage. Only part of the artifact, or of the info file, is none. -/
def Stage.after [Wire.Memory] (i : Insertion) : Stage → Deed → Stage
  | untouched, deed => if deed.removes i.slot.info then removed else untouched
  | removed, deed => if deed.empties then emptied else removed
  | emptied, deed =>
    match deed.written? with
    | some bytes => if bytes = i.artifact then filled else removed
    | none => emptied
  | filled, deed => if deed.renews i.slot.info then opened else filled
  | opened, deed =>
    match deed.written? with
    | some bytes => if bytes = i.metadata.encode then whole else removed
    | none => opened
  | whole, _ => whole

namespace Insertion

variable [Wire.Memory] (i : Insertion)

/-- The stage of an insertion after some deeds, the latest first. -/
def stage : List Deed → Stage
  | [] => .untouched
  | deed :: before =>
    if before.any Deed.unlocks then stage before else (stage before).after i deed

theorem stage_cons {before : List Deed} (h : before.any Deed.unlocks = false) (deed : Deed) :
    i.stage (deed :: before) = (i.stage before).after i deed := by
  rw [stage, h]
  exact if_neg Bool.false_ne_true

theorem stage_of_unlocked {before : List Deed} (h : before.any Deed.unlocks = true)
    (later : List Deed) : i.stage (later ++ before) = i.stage before := by
  induction later with
  | nil => rfl
  | cons deed later ih => rw [List.cons_append, stage, List.any_append, h, Bool.or_true, if_pos rfl, ih]

end Insertion

/-! ### Ledgers -/

/-- An entry of a ledger. -/
structure Record where
  insertion : Insertion
  stage : Stage
  deriving DecidableEq

/-- For every name, the insertion that last got past removing the info file. -/
abbrev Ledger := String → Option Record

namespace Ledger

def set (ledger : Ledger) (name : String) (record : Record) : Ledger :=
  fun other => if other = name then some record else ledger other

@[simp] theorem set_same (ledger : Ledger) (name : String) (record : Record) :
    ledger.set name record name = some record := if_pos rfl

theorem set_other {name other : String} (h : other ≠ name) (ledger : Ledger) (record : Record) :
    ledger.set name record other = ledger other := if_neg h

variable [Wire.Memory]

/-- What a deed adds to a ledger, if it is part of an insertion. -/
def note (ledger : Ledger) (i : Option Insertion) (before : List Deed) (deed : Deed) : Ledger :=
  match i with
  | none => ledger
  | some i =>
    if i.stage (deed :: before) = i.stage before then ledger
    else ledger.set i.slot.name ⟨i, i.stage (deed :: before)⟩

@[simp] theorem note_none (ledger : Ledger) (before : List Deed) (deed : Deed) :
    ledger.note none before deed = ledger := rfl

theorem note_of_stage {i : Insertion} {before : List Deed} {deed : Deed}
    (h : i.stage (deed :: before) = i.stage before) (ledger : Ledger) :
    ledger.note (some i) before deed = ledger := if_pos h

theorem note_of_ne {i : Insertion} {before : List Deed} {deed : Deed}
    (h : i.stage (deed :: before) ≠ i.stage before) (ledger : Ledger) :
    ledger.note (some i) before deed = ledger.set i.slot.name ⟨i, i.stage (deed :: before)⟩ :=
  if_neg h

end Ledger

/-! ### Slots as a ledger has them -/

section

variable [Wire.Memory]

namespace Record

/-- The content that the artifact has at a stage, where that is known. -/
def artifact? (r : Record) : Option Bytes :=
  match r.stage with
  | .untouched | .removed => none
  | .emptied => some []
  | .filled | .opened | .whole => some r.insertion.artifact

/-- Whether an info file is as it should be at a stage. -/
def Info (r : Record) (info : Option Bytes) : Prop :=
  match r.stage with
  | .whole => info = some r.insertion.metadata.encode
  | .opened => info = some []
  | _ => ∀ content ∈ info, Metadata.Illegible content

end Record

/-- What can be said of a slot that an insertion got to. -/
structure Record.Filed (r : Record) (disk : Disk) (path : String) (folder : NodeId)
    (name : String) : Prop where
  fits : r.insertion.metadata.Fits
  artifactNameable : Disk.Nameable path (Slot.artifactName name)
  infoNameable : Disk.Nameable path (Slot.infoName name)
  lockNameable : Disk.Nameable path (Slot.lockName name)
  artifact : ∃ content, disk.content? folder (Slot.artifactName name) = some content ∧
    ∀ due ∈ r.artifact?, content = due
  info : r.Info (disk.content? folder (Slot.infoName name))

/-- What can be said of a slot by its entry in a ledger. -/
def Filed (entry : Option Record) (disk : Disk) (path : String) (folder : NodeId)
    (name : String) : Prop :=
  match entry with
  | some r => r.Filed disk path folder name
  | none => ∀ content ∈ disk.content? folder (Slot.infoName name), Metadata.Illegible content

/-- The cache folder is missing and the ledger is empty, or it is there and as the ledger says. -/
def Site (path : String) (disk : Disk) (ledger : Ledger) : Prop :=
  disk.Absent path ∧ (∀ name, ledger name = none) ∨
    ∃ folder, disk.Leads path folder ∧ disk.Tidy folder ∧
      ∀ name, Filed (ledger name) disk path folder name

/-- A machine with a ledger of a cache folder. -/
structure Tracked where
  machine : Machine
  ledger : Ledger

/-- Whether a ledger is true of a machine. -/
structure Sound (path : String) (s : Tracked) : Prop where
  locks : s.machine.LocksApart
  releases : ∀ release ∈ s.machine.releases, release.2 < s.machine.files.length
  unrestricted : s.machine.Unrestricted
  site : Site path s.machine.disk s.ledger

variable {path name : String} {disk disk' : Disk} {folder : NodeId} {ledger : Ledger}

theorem Site.of_leads (h : Site path disk ledger) (hleads : disk.Leads path folder) :
    disk.Tidy folder ∧ ∀ name, Filed (ledger name) disk path folder name := by
  rcases h with ⟨habsent, -⟩ | ⟨other, hleads', htidy, hfiled⟩
  · exact absurd hleads (habsent.not_leads folder)
  · obtain rfl := hleads.unique hleads'
    exact ⟨htidy, hfiled⟩

/-- An info file that comes to be empty was not due. -/
theorem Record.Info.of_nil_or {r : Record} {info : Option Bytes} (h : r.Info info)
    {info' : Option Bytes} (hinfo : info' = info ∨ info = none ∧ info' = some []) :
    r.Info info' := by
  rcases hinfo with rfl | ⟨rfl, rfl⟩
  · exact h
  · have hnil : ∀ content ∈ some ([] : Bytes), Metadata.Illegible content := by
      rintro content ⟨rfl⟩
      exact Metadata.illegible_nil
    unfold Record.Info at h ⊢
    split at h
    · cases h
    · cases h
    · exact hnil

/-- A slot stays as it is filed while its artifact stays, and its info file stays or comes to
be empty. -/
theorem Filed.congr {entry : Option Record} (h : Filed entry disk path folder name)
    (hartifact : ∀ content, disk.content? folder (Slot.artifactName name) = some content →
      disk'.content? folder (Slot.artifactName name) = some content)
    (hinfo : disk'.content? folder (Slot.infoName name) = disk.content? folder (Slot.infoName name) ∨
      disk.content? folder (Slot.infoName name) = none ∧
        disk'.content? folder (Slot.infoName name) = some []) :
    Filed entry disk' path folder name := by
  cases entry with
  | none =>
    intro content hcontent
    rcases hinfo with hsame | ⟨-, hnew⟩
    · exact h content (hsame ▸ hcontent)
    · rw [hnew] at hcontent
      cases hcontent
      exact Metadata.illegible_nil
  | some r =>
    obtain ⟨content, hcontent, hdue⟩ := h.artifact
    exact ⟨h.fits, h.artifactNameable, h.infoNameable, h.lockNameable,
      ⟨content, hartifact content hcontent, hdue⟩, h.info.of_nil_or hinfo⟩

/-- A new file, wherever it is, changes nothing that is filed. -/
theorem Site.added_file (h : Site path disk ledger) (hadded : disk.Added (.file []) disk') :
    Site path disk' ledger := by
  rcases h with ⟨habsent, hnone⟩ | ⟨folder, hleads, htidy, hfiled⟩
  · rcases habsent.of_added hadded (.inl rfl) with habsent' | ⟨folder, hleads, hempty⟩
    · exact .inl ⟨habsent', hnone⟩
    · refine .inr ⟨folder, hleads, Disk.neat_of_empty hempty, fun name => ?_⟩
      rw [hnone]
      simp [Filed, Disk.content?_of_empty hempty]
  · refine .inr ⟨folder, hleads.grows hadded.grows, htidy.added hadded, fun name => ?_⟩
    refine (hfiled name).congr (fun content hcontent => ?_) (htidy.content?_added hadded _ trivial)
    rcases htidy.content?_added hadded (Slot.artifactName name) trivial with hsame | ⟨hnone, -⟩
    · rw [hsame, hcontent]
    · rw [hnone] at hcontent
      cases hcontent

/-- A new folder, on the way to a cache folder that is missing. -/
theorem Site.added_folder (h : Site path disk ledger) (hmissing : ∀ folder, ¬ disk.Leads path folder)
    (hadded : disk.Added (.folder []) disk') : Site path disk' ledger := by
  rcases h with ⟨habsent, hnone⟩ | ⟨folder, hleads, -⟩
  · rcases habsent.of_added hadded (.inr rfl) with habsent' | ⟨folder, hleads, hempty⟩
    · exact .inl ⟨habsent', hnone⟩
    · refine .inr ⟨folder, hleads, Disk.neat_of_empty hempty, fun name => ?_⟩
      rw [hnone]
      simp [Filed, Disk.content?_of_empty hempty]
  · exact absurd hleads (hmissing folder)

/-- A change to the files of one slot. -/
theorem Site.change (h : Site path disk ledger) (hleads : disk.Leads path folder)
    (hgrows : disk.Grows disk') (htidy' : disk'.Tidy folder)
    (hothers : ∀ other, other ≠ name →
      disk'.content? folder (Slot.artifactName other) = disk.content? folder (Slot.artifactName other) ∧
      disk'.content? folder (Slot.infoName other) = disk.content? folder (Slot.infoName other))
    {r : Record} (hr : r.Filed disk' path folder name) :
    Site path disk' (ledger.set name r) := by
  obtain ⟨-, hfiled⟩ := h.of_leads hleads
  refine .inr ⟨folder, hleads.grows hgrows, htidy', fun other => ?_⟩
  by_cases hother : other = name
  · subst hother
    rw [Ledger.set_same]
    exact hr
  · obtain ⟨hartifact, hinfo⟩ := hothers other hother
    rw [Ledger.set_other hother]
    exact (hfiled other).congr (fun content hcontent => hartifact.trans hcontent) (.inl hinfo)

end

/-! ### Where it starts -/

/-- Whether a cache folder is missing or empty, the locks and open files being in order and nothing
being refused. -/
structure Machine.Fresh (m : Machine) (folder : String) : Prop where
  locks : m.LocksApart
  releases : ∀ release ∈ m.releases, release.2 < m.files.length
  unrestricted : m.Unrestricted
  empty : m.disk.Absent folder ∨
    ∃ node, m.disk.Leads folder node ∧ m.disk.node? node = some (.folder [])

theorem Machine.Fresh.sound [Wire.Memory] {m : Machine} {folder : String} (h : m.Fresh folder) :
    Sound folder ⟨m, fun _ => none⟩ := by
  refine ⟨h.locks, h.releases, h.unrestricted, ?_⟩
  rcases h.empty with habsent | ⟨node, hleads, hempty⟩
  · exact .inl ⟨habsent, fun _ => rfl⟩
  · refine .inr ⟨node, hleads, Disk.neat_of_empty hempty, fun name => ?_⟩
    simp [Filed, Disk.content?_of_empty hempty]

/-- A machine with nothing on its disk. -/
def Machine.blank : Machine where
  disk := { nodes := [.folder []], here := [Disk.root] }
  launcher := fun _ _ _ disk => (.error .notFound, disk)

theorem Machine.blank_fresh : Machine.blank.Fresh "c" where
  locks := ⟨fun {handle} _ _ _ _ _ _ hfile => by cases handle <;> cases hfile⟩
  releases := nofun
  unrestricted := fun _ _ => rfl
  empty := by
    refine .inl ⟨[], "c", [], Disk.root, none, by decide, by decide, by decide, rfl, ⟨[], rfl⟩, ?_⟩
    nofun

end ScriptCache
