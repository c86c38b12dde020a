import Mathlib
import ScriptCache.Proofs.Machine.Paths
import ScriptCache.Slot.Basic

/-! The names of a slot's files in its folder.

Each of the three paths of a slot is the folder's path joined with one name (`artifact_eq`,
`info_eq`, `lock_eq`). The names tell the slots apart, and the three kinds from each other: a
resource whose own name has one of the endings gets files of other names all the same. -/
namespace ScriptCache

/-- A text that names a resource. -/
abbrev ResourceName := { name : String // NameFlaw.of? name = none }

/-- The slot of a resource in a cache folder. -/
def ResourceName.slot (name : ResourceName) (folder : String) : Slot :=
  ⟨folder, name.val, name.property⟩

namespace Slot

/-- The name of a resource's artifact, of its info file and of its lock file. -/
def artifactName (name : String) : String := name ++ ".o"

def infoName (name : String) : String := name ++ ".o" ++ ".info"

def lockName (name : String) : String := name ++ ".o" ++ ".lock"

variable (slot : Slot)

theorem artifact_eq : slot.artifact = Path.join slot.folder (artifactName slot.name) := rfl

theorem info_eq : slot.info = Path.join slot.folder (infoName slot.name) :=
  Path.join_append slot.folder (artifactName slot.name) ".info"

theorem lock_eq : slot.lock = Path.join slot.folder (lockName slot.name) :=
  Path.join_append slot.folder (artifactName slot.name) ".lock"

/-- A slot is that of its own folder and name. -/
theorem of_eq_ok {folder name : String} {slot : Slot} :
    Slot.of folder name = .ok slot ↔ slot.folder = folder ∧ slot.name = name := by
  unfold Slot.of
  split
  · rename_i hsound
    simp only [Except.ok.injEq]
    constructor
    · intro h
      subst h
      exact ⟨rfl, rfl⟩
    · intro h
      cases slot
      simp_all
  · rename_i flaw hflaw
    simp only [reduceCtorEq, false_iff]
    intro h
    have hsound := slot.sound
    rw [h.2, hflaw] at hsound
    cases hsound

/-! ### Names that lead from a folder to a file -/

theorem flat_of_sound {name : String} (h : NameFlaw.of? name = none) : '/' ∉ name.toList := by
  simp only [NameFlaw.of?] at h
  split_ifs at h with hempty hdot hslash
  exact fun hmem => hslash (.inl hmem)

theorem filled_of_sound {name : String} (h : NameFlaw.of? name = none) : name ≠ "" := by
  intro hempty
  simp [NameFlaw.of?, hempty] at h

/-- A name with something added that holds no slash is a name of a file. -/
theorem plain_append {name ending : String} (h : NameFlaw.of? name = none)
    (hflat : '/' ∉ ending.toList) (hlong : 2 ≤ ending.toList.length) : Path.Plain (name ++ ending) := by
  have hfilled := filled_of_sound h
  have hpos : 0 < name.toList.length :=
    List.length_pos_iff.mpr fun hnil => hfilled (String.toList_eq_nil_iff.mp hnil)
  have hlength (other : String) (heq : name ++ ending = other) :
      name.toList.length + ending.toList.length = other.toList.length := by
    rw [← heq, String.toList_append, List.length_append]
  refine ⟨⟨fun heq => ?_, ?_⟩, fun heq => ?_, fun heq => ?_⟩
  · have := hlength "" heq
    simp only [String.toList_empty, List.length_nil] at this
    omega
  · rw [String.toList_append, List.mem_append, not_or]
    exact ⟨flat_of_sound h, hflat⟩
  · have : _ = 1 := hlength "." heq
    omega
  · have : _ = 2 := hlength ".." heq
    omega

theorem plain_artifactName : Path.Plain (artifactName slot.name) :=
  plain_append slot.sound (by decide) (by decide)

theorem plain_infoName : Path.Plain (infoName slot.name) := by
  rw [infoName, String.append_assoc]
  exact plain_append slot.sound (by decide) (by decide)

theorem plain_lockName : Path.Plain (lockName slot.name) := by
  rw [lockName, String.append_assoc]
  exact plain_append slot.sound (by decide) (by decide)

/-! ### Names told apart -/

theorem append_right_injective (ending : String) :
    Function.Injective fun name : String => name ++ ending := by
  intro a b h
  have hlist := congrArg String.toList h
  simp only [String.toList_append] at hlist
  exact String.toList_inj.mp (List.append_cancel_right hlist)

theorem artifactName_injective : Function.Injective artifactName :=
  append_right_injective ".o"

theorem infoName_injective : Function.Injective infoName :=
  (append_right_injective ".info").comp (append_right_injective ".o")

theorem lockName_injective : Function.Injective lockName :=
  (append_right_injective ".lock").comp (append_right_injective ".o")

/-- Texts that end differently are different. -/
theorem append_ne_append {ending ending' : String}
    (h : ending.toList.getLast? ≠ ending'.toList.getLast?) (hne : ending.toList ≠ [])
    (hne' : ending'.toList ≠ []) (a b : String) : a ++ ending ≠ b ++ ending' := by
  intro heq
  have hlast := congrArg (fun s : String => s.toList.getLast?) heq
  simp only [String.toList_append] at hlast
  rw [List.getLast?_append_of_ne_nil _ hne, List.getLast?_append_of_ne_nil _ hne'] at hlast
  exact h hlast

theorem artifactName_ne_lockName (a b : String) : artifactName a ≠ lockName b :=
  append_ne_append (by decide) (by decide) (by decide) _ _

theorem infoName_ne_lockName (a b : String) : infoName a ≠ lockName b :=
  append_ne_append (by decide) (by decide) (by decide) _ _

/-- Both endings end in the same letter, but not in the same two. -/
theorem artifactName_ne_infoName (a b : String) : artifactName a ≠ infoName b := by
  intro heq
  have hlist := congrArg (fun s : String => s.toList.reverse.take 2) heq
  simp [artifactName, infoName] at hlist

end Slot

end ScriptCache
