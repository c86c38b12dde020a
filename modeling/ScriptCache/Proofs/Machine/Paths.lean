import Mathlib
import ScriptCache.Machine.Path

/-! The parts of joined paths, and of the paths above a path.

Joining a name to a folder adds one part and changes neither where the path starts nor how
it ends. The folders above a path have the beginnings of its parts, up to parts that stay
in place (`Undotted`). -/
namespace ScriptCache.Path

/-- A name that can be one part of a path. -/
structure IsPart (name : String) : Prop where
  filled : name ≠ ""
  flat : '/' ∉ name.toList

/-- A name that leads from a folder to one of its entries. -/
structure Plain (name : String) : Prop extends IsPart name where
  onward : name ≠ "."
  inward : name ≠ ".."

/-! ### Splitting -/

theorem splitSlash_ne_nil (cs : List Char) : splitSlash cs ≠ [] := by
  fun_induction splitSlash cs <;> simp

theorem splitSlash_append (cs ds : List Char) :
    splitSlash (cs ++ '/' :: ds) = splitSlash cs ++ splitSlash ds := by
  induction cs with
  | nil => simp [splitSlash]
  | cons c cs ih =>
    by_cases hc : c = '/'
    · simp [splitSlash, hc, ih]
    · obtain ⟨part, parts, hparts⟩ := List.exists_cons_of_ne_nil (splitSlash_ne_nil cs)
      simp [splitSlash, hc, ih, hparts]

theorem splitSlash_flat {cs : List Char} (h : '/' ∉ cs) : splitSlash cs = [cs] := by
  induction cs with
  | nil => rfl
  | cons c cs ih =>
    have hc : c ≠ '/' := fun hc => h (hc ▸ List.mem_cons_self)
    have hcs : '/' ∉ cs := fun hmem => h (List.mem_cons_of_mem c hmem)
    simp [splitSlash, hc, ih hcs]

theorem flat_of_mem_splitSlash {cs part : List Char} (h : part ∈ splitSlash cs) : '/' ∉ part := by
  induction cs generalizing part with
  | nil => simp_all [splitSlash]
  | cons c cs ih =>
    by_cases hc : c = '/'
    · simp only [splitSlash, if_pos hc, List.mem_cons] at h
      rcases h with rfl | h
      · simp
      · exact ih h
    · obtain ⟨first, others, hsplit⟩ := List.exists_cons_of_ne_nil (splitSlash_ne_nil cs)
      simp only [splitSlash, if_neg hc, hsplit, List.mem_cons] at h
      rcases h with rfl | h
      · have hfirst := ih (hsplit ▸ List.mem_cons_self)
        simp [Ne.symm hc, hfirst]
      · exact ih (hsplit ▸ List.mem_cons_of_mem first h)

theorem isPart_of_mem_parts {path part : String} (h : part ∈ parts path) : IsPart part := by
  simp only [parts, List.mem_map, List.mem_filter] at h
  obtain ⟨cs, ⟨hcs, hne⟩, rfl⟩ := h
  refine ⟨fun hempty => ?_, ?_⟩
  · have := congrArg String.toList hempty
    simp_all
  · rw [String.toList_ofList]
    exact flat_of_mem_splitSlash hcs

/-- The nonempty parts of some characters. -/
def partsOf (cs : List Char) : List String :=
  ((splitSlash cs).filter (! ·.isEmpty)).map String.ofList

theorem partsOf_append (cs ds : List Char) :
    partsOf (cs ++ '/' :: ds) = partsOf cs ++ partsOf ds := by
  simp [partsOf, splitSlash_append]

theorem partsOf_part {name : String} (h : IsPart name) : partsOf name.toList = [name] := by
  have hne : name.toList ≠ [] := fun hnil => h.filled (String.toList_eq_nil_iff.mp hnil)
  simp [partsOf, splitSlash_flat h.flat, hne]

/-! ### Joining -/

theorem join_append (folder name ending : String) :
    join folder name ++ ending = join folder (name ++ ending) := by
  unfold join
  split <;> simp [String.append_assoc]

/-- A folder's path and a name are joined at a slash that is there or is added. -/
theorem toList_join (folder : String) (name : String) :
    folder = "" ∧ (join folder name).toList = name.toList ∨
      ∃ above, (folder.toList = above ++ ['/'] ∨ folder.toList = above ∧ above ≠ []) ∧
        (join folder name).toList = above ++ '/' :: name.toList := by
  by_cases hempty : folder = ""
  · left
    subst hempty
    refine ⟨rfl, ?_⟩
    simp [join]
  right
  have hne : folder.isEmpty = false := by simpa using hempty
  by_cases hslash : endsInSlash folder
  · have hlast : folder.toList.getLast? = some '/' := by simpa [endsInSlash] using hslash
    obtain ⟨above, habove⟩ := List.getLast?_eq_some_iff.mp hlast
    refine ⟨above, .inl habove, ?_⟩
    simp [join, hslash, habove]
  · have hnil : folder.toList ≠ [] := fun h => hempty (String.toList_eq_nil_iff.mp h)
    refine ⟨folder.toList, .inr ⟨rfl, hnil⟩, ?_⟩
    simp [join, hslash, hempty]

/-- Joining adds one part. -/
theorem parts_join {folder name : String} (h : IsPart name) :
    parts (join folder name) = parts folder ++ [name] := by
  show partsOf (join folder name).toList = partsOf folder.toList ++ [name]
  rcases toList_join folder name with ⟨rfl, hjoin⟩ | ⟨above, hfolder, hjoin⟩
  · rw [hjoin, partsOf_part h]
    rfl
  · rw [hjoin, partsOf_append, partsOf_part h]
    rcases hfolder with hslash | ⟨hplain, -⟩
    · have hnil : partsOf [] = [] := rfl
      rw [hslash, partsOf_append, hnil, List.append_nil]
    · rw [hplain]

theorem endsInSlash_join {folder name : String} (h : IsPart name) :
    endsInSlash (join folder name) = false := by
  have hne : name.toList ≠ [] := fun hnil => h.filled (String.toList_eq_nil_iff.mp hnil)
  have hlast : name.toList.getLast? ≠ some '/' := fun hl => h.flat (List.mem_of_getLast? hl)
  have hjoin : (join folder name).toList.getLast? = name.toList.getLast? := by
    rcases toList_join folder name with ⟨-, hjoin⟩ | ⟨above, -, hjoin⟩
    · rw [hjoin]
    · rw [hjoin, List.append_cons, List.getLast?_append_of_ne_nil _ hne]
  simpa [endsInSlash, hjoin] using hlast

theorem isAbsolute_join {folder name : String} (h : IsPart name) :
    isAbsolute (join folder name) = isAbsolute folder := by
  have hhead : name.toList.head? ≠ some '/' := fun hh => h.flat (List.mem_of_head? hh)
  rcases toList_join folder name with ⟨rfl, hjoin⟩ | ⟨above, hslash | ⟨hplain, hne⟩, hjoin⟩
  · simpa [isAbsolute, hjoin] using hhead
  · cases above <;> simp [isAbsolute, hjoin, hslash]
  · obtain ⟨c, cs, rfl⟩ := List.exists_cons_of_ne_nil hne
    simp [isAbsolute, hjoin, hplain]

/-! ### The folders above a path -/

/-- One list of parts is another without some parts that stay in place. -/
inductive Undotted : List String → List String → Prop where
  | nil : Undotted [] []
  | keep (part : String) {ps qs : List String} : Undotted ps qs → Undotted (part :: ps) (part :: qs)
  | drop {ps qs : List String} : Undotted ps qs → Undotted ("." :: ps) qs

theorem Undotted.refl (ps : List String) : Undotted ps ps := by
  induction ps with
  | nil => exact .nil
  | cons p ps ih => exact .keep p ih

theorem Undotted.append_left (first : List String) {ps qs : List String} (h : Undotted ps qs) :
    Undotted (first ++ ps) (first ++ qs) := by
  induction first with
  | nil => exact h
  | cons p first ih => exact .keep p ih

theorem Undotted.filter (ps : List String) : Undotted ps (ps.filter (· != ".")) := by
  induction ps with
  | nil => exact .nil
  | cons p ps ih =>
    by_cases hp : p = "."
    · subst hp
      simpa using Undotted.drop ih
    · simpa [hp] using Undotted.keep p ih

theorem partsOf_intercalate {ps : List String} (h : ∀ p ∈ ps, IsPart p) :
    partsOf ("/".intercalate ps).toList = ps := by
  induction ps with
  | nil => rfl
  | cons p ps ih =>
    have hp := partsOf_part (h p List.mem_cons_self)
    cases ps with
    | nil => simpa using hp
    | cons q ps =>
      have hrest := ih fun r hr => h r (List.mem_cons_of_mem p hr)
      have hlist : ("/".intercalate (p :: q :: ps)).toList =
          p.toList ++ '/' :: ("/".intercalate (q :: ps)).toList := by
        simp [String.toList_intercalate, List.intercalate]
      rw [hlist, partsOf_append, hp, hrest]
      rfl

theorem head_intercalate {ps : List String} (h : ∀ p ∈ ps, IsPart p) :
    ("/".intercalate ps).toList.head? ≠ some '/' := by
  cases ps with
  | nil => simp
  | cons p ps =>
    obtain ⟨hfilled, hflat⟩ := h p List.mem_cons_self
    have hne : p.toList ≠ [] := fun hnil => hfilled (String.toList_eq_nil_iff.mp hnil)
    obtain ⟨c, cs, hcs⟩ := List.exists_cons_of_ne_nil hne
    have hhead : ("/".intercalate (p :: ps)).toList.head? = some c := by
      cases ps <;> simp [String.toList_intercalate, List.intercalate, hcs]
    rw [hhead]
    rintro ⟨rfl⟩
    exact hflat (hcs ▸ List.mem_cons_self)

theorem mem_properBeginnings {α : Type} {as beginning : List α}
    (h : beginning ∈ properBeginnings as) : ∃ more, as = beginning ++ more := by
  simp only [properBeginnings, List.mem_reverse, List.mem_map] at h
  obtain ⟨i, -, rfl⟩ := h
  exact ⟨as.drop (i + 1), (List.take_append_drop _ as).symm⟩

/-- The parts from which the paths of the folders above a path are put together. -/
def named (path : String) : List String :=
  match parts path with
  | [] => []
  | first :: rest =>
    if first == "." && isAbsolute path then rest.filter (· != ".")
    else first :: rest.filter (· != ".")

theorem ancestors_eq {path : String} (h : path.isEmpty = false) :
    ancestors path = path :: ((properBeginnings (named path)).map fun beginning =>
        (if isAbsolute path then "/" else "") ++ "/".intercalate beginning) ++
      if isAbsolute path && !(named path).isEmpty then ["/"] else [] := by
  simp only [ancestors, h, Bool.false_eq_true, if_false]
  rfl

theorem undotted_named (path : String) : Undotted (parts path) (named path) := by
  unfold named
  cases parts path with
  | nil => exact .nil
  | cons first rest =>
    by_cases hfirst : (first == "." && isAbsolute path) = true
    · simp only [if_pos hfirst]
      obtain rfl : first = "." := by simp_all
      exact .drop (.filter rest)
    · simp only [if_neg hfirst]
      exact .keep first (.filter rest)

theorem Undotted.mem {ps qs : List String} (h : Undotted ps qs) {part : String}
    (hpart : part ∈ qs) : part ∈ ps := by
  induction h with
  | nil => exact hpart
  | keep first _ ih =>
    rcases List.mem_cons.mp hpart with rfl | hpart
    · exact List.mem_cons_self
    · exact List.mem_cons_of_mem first (ih hpart)
  | drop _ ih => exact List.mem_cons_of_mem _ (ih hpart)

/-- What is put together from parts has these parts, and starts as it is meant to. -/
theorem parts_built (absolute : Bool) {ps : List String} (h : ∀ p ∈ ps, IsPart p) :
    parts ((if absolute then "/" else "") ++ "/".intercalate ps) = ps ∧
      isAbsolute ((if absolute then "/" else "") ++ "/".intercalate ps) = absolute := by
  cases absolute with
  | false =>
    rw [if_neg Bool.false_ne_true, String.empty_append]
    exact ⟨partsOf_intercalate h, by simpa only [isAbsolute, beq_eq_false_iff_ne] using head_intercalate h⟩
  | true =>
    rw [if_pos rfl]
    have hlist : ("/" ++ "/".intercalate ps).toList = [] ++ '/' :: ("/".intercalate ps).toList := by
      simp
    constructor
    · show partsOf ("/" ++ "/".intercalate ps).toList = ps
      rw [hlist, partsOf_append, partsOf_intercalate h]
      rfl
    · simp [isAbsolute]

/-- A folder above a path starts where the path starts, and its parts begin the path's, up to
parts that stay in place. -/
theorem parts_of_mem_ancestors {folder path : String} (h : path ∈ ancestors folder) :
    isAbsolute path = isAbsolute folder ∧
      ∃ qs more, Undotted (parts folder) qs ∧ qs = parts path ++ more := by
  by_cases hempty : folder.isEmpty
  · simp [ancestors, hempty] at h
  rw [ancestors_eq (by simpa using hempty)] at h
  rcases List.mem_append.mp h with h | h
  · rcases List.mem_cons.mp h with rfl | h
    · exact ⟨rfl, parts path, [], .refl _, by simp⟩
    · obtain ⟨beginning, hbeginning, rfl⟩ := List.mem_map.mp h
      obtain ⟨more, hmore⟩ := mem_properBeginnings hbeginning
      have hparts : ∀ p ∈ beginning, IsPart p := fun p hp =>
        isPart_of_mem_parts ((undotted_named folder).mem (hmore ▸ List.mem_append_left more hp))
      obtain ⟨hbuilt, habsolute⟩ := parts_built (isAbsolute folder) hparts
      exact ⟨habsolute, named folder, more, undotted_named folder, by rw [hbuilt, hmore]⟩
  · split at h
    · rename_i habsolute
      rw [Bool.and_eq_true] at habsolute
      rw [List.mem_singleton.mp h, habsolute.1]
      exact ⟨rfl, named folder, named folder, undotted_named folder, rfl⟩
    · simp at h

end ScriptCache.Path
