import Mathlib
import ScriptCache.Proofs.Slot.Names

/-! Slots stay in their folder and never overlap.

A place can be written in many ways, with slashes to spare and parts that stay where they are, so
two paths may be the same although their texts differ (`Path.Same`). Joining a plain name to a
folder puts the name behind the parts of the folder, however the folder is written (`named_join`).
Paths of files in one folder are therefore the same only if the files' names are, and the name of a
slot's file gives away which file it is and of which resource (`fileName_injective`). That is why
even a resource whose name ends like the files of another has a slot of its own (`slots_apart`). -/
namespace ScriptCache

namespace Path

/-- Whether two paths differ in no more than spare slashes and parts that stay in place. -/
def Same (a b : String) : Prop :=
  isAbsolute a = isAbsolute b ∧ named a = named b

instance (a b : String) : Decidable (Same a b) :=
  inferInstanceAs (Decidable (_ ∧ _))

theorem Same.refl (path : String) : Same path path :=
  ⟨rfl, rfl⟩

/-- A name that leads to an entry of a folder, whichever way the slashes lean that part names, and
that a system takes as a name. -/
structure Component (name : String) : Prop extends Plain name where
  unslanted : '\\' ∉ name.toList
  unended : '\x00' ∉ name.toList

/-- A joined name is the last part, and a folder's own parts stay as they were. -/
theorem named_join {folder name : String} (h : Plain name) :
    named (join folder name) = named folder ++ [name] := by
  unfold named
  rw [parts_join h.toIsPart, isAbsolute_join h.toIsPart]
  cases parts folder with
  | nil => simp [h.onward]
  | cons first rest =>
    simp only [List.cons_append]
    split <;> simp [h.onward]

theorem same_join_iff {folder a b : String} (ha : Plain a) (hb : Plain b) :
    Same (join folder a) (join folder b) ↔ a = b := by
  unfold Same
  rw [isAbsolute_join ha.toIsPart, isAbsolute_join hb.toIsPart, named_join ha, named_join hb]
  simp

end Path

/-- The files of a slot. -/
inductive SlotFile where
  | artifact
  | info
  | lock
  deriving DecidableEq

namespace SlotFile

/-- The name of a resource's file in the cache folder. -/
def fileName : SlotFile → String → String
  | artifact => Slot.artifactName
  | info => Slot.infoName
  | lock => Slot.lockName

/-- What a file's name has behind the name of the resource. -/
def ending : SlotFile → String
  | artifact => ".o"
  | info => ".o" ++ ".info"
  | lock => ".o" ++ ".lock"

theorem fileName_eq (file : SlotFile) (name : String) : file.fileName name = name ++ file.ending := by
  cases file with
  | artifact => rfl
  | info => exact String.append_assoc ..
  | lock => exact String.append_assoc ..

end SlotFile

namespace Slot

/-- Where a file of the slot is. -/
def path (slot : Slot) : SlotFile → String
  | .artifact => slot.artifact
  | .info => slot.info
  | .lock => slot.lock

theorem path_eq (slot : Slot) (file : SlotFile) :
    slot.path file = Path.join slot.folder (file.fileName slot.name) := by
  cases file with
  | artifact => exact slot.artifact_eq
  | info => exact slot.info_eq
  | lock => exact slot.lock_eq

end Slot

namespace SlotFile

theorem plain_fileName (file : SlotFile) (slot : Slot) : Path.Plain (file.fileName slot.name) := by
  cases file with
  | artifact => exact slot.plain_artifactName
  | info => exact slot.plain_infoName
  | lock => exact slot.plain_lockName

/-- Slashes and the character that ends names are in a file's name only where they are in the
resource's. -/
theorem mem_fileName (file : SlotFile) {name : String} {c : Char} (hc : c ∈ ['/', '\\', '\x00']) :
    c ∈ (file.fileName name).toList ↔ c ∈ name.toList := by
  have hending : ∀ c ∈ ['/', '\\', '\x00'], c ∉ file.ending.toList := by
    cases file <;> simp [ending]
  rw [file.fileName_eq, String.toList_append, List.mem_append, or_iff_left (hending c hc)]

theorem component_fileName (file : SlotFile) (slot : Slot) :
    Path.Component (file.fileName slot.name) := by
  have hsound := slot.sound
  unfold NameFlaw.of? at hsound
  split_ifs at hsound with hempty hdots hslashes hnul
  refine ⟨file.plain_fileName slot, fun hslant => ?_, fun hend => ?_⟩
  · exact hslashes (.inr ((file.mem_fileName (by simp)).mp hslant))
  · exact hnul ((file.mem_fileName (by simp)).mp hend)

/-- A file's name tells which file it is and of which resource. -/
theorem fileName_injective : Function.Injective2 fileName := by
  intro file file' a b h
  cases file with
  | artifact =>
    cases file' with
    | artifact => exact ⟨rfl, Slot.artifactName_injective h⟩
    | info => exact absurd h (Slot.artifactName_ne_infoName a b)
    | lock => exact absurd h (Slot.artifactName_ne_lockName a b)
  | info =>
    cases file' with
    | artifact => exact absurd h.symm (Slot.artifactName_ne_infoName b a)
    | info => exact ⟨rfl, Slot.infoName_injective h⟩
    | lock => exact absurd h (Slot.infoName_ne_lockName a b)
  | lock =>
    cases file' with
    | artifact => exact absurd h.symm (Slot.artifactName_ne_lockName b a)
    | info => exact absurd h.symm (Slot.infoName_ne_lockName b a)
    | lock => exact ⟨rfl, Slot.lockName_injective h⟩

end SlotFile

namespace Slot

variable {folder name name' : String} {slot slot' : Slot}

/-- A slot's file lies in the cache folder itself, under a name that is a single part of a path, and
two files of slots in one folder have the same path only if they are one file of one resource. -/
theorem slots_apart (h : Slot.of folder name = .ok slot) (h' : Slot.of folder name' = .ok slot')
    (file file' : SlotFile) :
    slot.path file = Path.join folder (file.fileName name) ∧
      Path.Component (file.fileName name) ∧
      Path.parts (slot.path file) = Path.parts folder ++ [file.fileName name] ∧
      (Path.Same (slot.path file) (slot'.path file') ↔ file = file' ∧ name = name') := by
  obtain ⟨rfl, rfl⟩ := of_eq_ok.mp h
  obtain ⟨hfolder, rfl⟩ := of_eq_ok.mp h'
  have hplain := file.plain_fileName slot
  refine ⟨slot.path_eq file, file.component_fileName slot, ?_, ?_⟩
  · rw [slot.path_eq, Path.parts_join hplain.toIsPart]
  · rw [slot.path_eq, slot'.path_eq, hfolder, Path.same_join_iff hplain (file'.plain_fileName slot')]
    constructor
    · intro hname
      exact SlotFile.fileName_injective hname
    · intro hsame
      rw [hsame.1, hsame.2]

/-- A resource that is called like the lock file of another, in a folder that is written with a slash
to spare: all the same no file of the one is a file of the other. -/
theorem slots_apart_of_nested_endings :
    ∃ slot slot', Slot.of "c//." "a" = .ok slot ∧ Slot.of "c//." "a.o.lock" = .ok slot' ∧
      slot.lock = "c//./a.o.lock" ∧ slot'.artifact = "c//./a.o.lock.o" ∧
      Path.parts slot.lock = Path.parts "c//." ++ ["a.o.lock"] ∧
      ∀ file file', ¬ Path.Same (slot.path file) (slot'.path file') := by
  have hslot : Slot.of "c//." "a" = .ok ⟨"c//.", "a", by decide +kernel⟩ := of_eq_ok.mpr ⟨rfl, rfl⟩
  have hslot' : Slot.of "c//." "a.o.lock" = .ok ⟨"c//.", "a.o.lock", by decide +kernel⟩ :=
    of_eq_ok.mpr ⟨rfl, rfl⟩
  obtain ⟨-, -, hparts, -⟩ := slots_apart hslot hslot' .lock .artifact
  refine ⟨_, _, hslot, hslot', by decide +kernel, by decide +kernel, hparts,
    fun file file' hsame => ?_⟩
  obtain ⟨-, -, -, hapart⟩ := slots_apart hslot hslot' file file'
  exact absurd (hapart.mp hsame).2 (by decide)

end Slot

end ScriptCache
