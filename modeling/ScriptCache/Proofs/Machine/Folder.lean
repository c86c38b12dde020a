import Mathlib
import ScriptCache.Proofs.Entries
import ScriptCache.Proofs.Machine.Walk

/-! The entries of a folder and the contents of files, and what a single change to a disk does to
them: a node that is added under a free name (`Added`), a file that gets another content, a file
whose name is removed. Each leaves the folders and links where they are (`Grows`), so that a path
leads on to where it led. -/
namespace ScriptCache.Disk

variable {d d' : Disk}

/-! ### Entries and contents -/

/-- What a name stands for in a folder. -/
def child? (d : Disk) (folder : NodeId) (name : String) : Option NodeId :=
  match d.node? folder with
  | some (.folder entries) => entries.lookup name
  | _ => none

/-- The content of a file. -/
def fileContent? (d : Disk) (id : NodeId) : Option Bytes :=
  match d.node? id with
  | some (.file content) => some content
  | _ => none

/-- The content of the file that has a name in a folder. -/
def content? (d : Disk) (folder : NodeId) (name : String) : Option Bytes :=
  (d.child? folder name).bind d.fileContent?

theorem fileContent?_eq_some {id : NodeId} {content : Bytes} :
    d.fileContent? id = some content ↔ d.node? id = some (.file content) := by
  simp only [fileContent?]
  split <;> simp_all

theorem child?_eq_some {folder id : NodeId} {name : String} :
    d.child? folder name = some id ↔
      ∃ entries, d.node? folder = some (.folder entries) ∧ entries.lookup name = some id := by
  simp only [child?]
  split <;> simp_all

theorem vacancy_iff {folder : NodeId} {name : String} :
    d.Vacancy folder name ↔
      ¬ nameLimit < Name.size name ∧ d.IsFolder folder ∧ d.child? folder name = none := by
  constructor
  · rintro ⟨hshort, entries, hnode, hlookup⟩
    exact ⟨hshort, ⟨entries, hnode⟩, by simp [child?, hnode, hlookup]⟩
  · rintro ⟨hshort, ⟨entries, hnode⟩, hentry⟩
    exact ⟨hshort, entries, hnode, by simpa [child?, hnode] using hentry⟩

theorem IsFolder.lt {id : NodeId} (h : d.IsFolder id) : id < d.nodes.length := by
  obtain ⟨entries, hnode⟩ := h
  exact (List.getElem?_eq_some_iff.mp hnode).1

theorem lt_of_fileContent? {id : NodeId} {content : Bytes} (h : d.fileContent? id = some content) :
    id < d.nodes.length :=
  (List.getElem?_eq_some_iff.mp (fileContent?_eq_some.mp h)).1

theorem not_isFolder_of_fileContent? {id : NodeId} {content : Bytes}
    (h : d.fileContent? id = some content) : ¬ d.IsFolder id := by
  rintro ⟨entries, hnode⟩
  rw [fileContent?_eq_some, hnode] at h
  cases h

/-- Whether two disks hold the same at a number. -/
theorem fileContent?_congr {id : NodeId} (h : d'.node? id = d.node? id) :
    d'.fileContent? id = d.fileContent? id := by
  rw [fileContent?, h, fileContent?]

/-! ### Adding a node -/

/-- Whether a disk is another with one more node, under a name that was free. -/
def Added (node : Node) (d d' : Disk) : Prop :=
  ∃ folder name, d.Vacancy folder name ∧ d' = d.add folder name node

theorem node?_add {folder : NodeId} {name : String} {node : Node}
    {entries : List (String × NodeId)} (hfolder : d.node? folder = some (.folder entries))
    (id : NodeId) :
    (d.add folder name node).node? id =
      if id = d.nodes.length then some node
      else if id = folder then some (.folder (entries ++ [(name, d.nodes.length)]))
      else d.node? id := by
  have hlt : folder < d.nodes.length := IsFolder.lt ⟨entries, hfolder⟩
  have hnodes : (d.add folder name node).nodes =
      d.nodes.set folder (.folder (entries ++ [(name, d.nodes.length)])) ++ [node] := by
    simp only [add, hfolder]
  rw [Disk.node?, hnodes]
  by_cases hnew : id = d.nodes.length
  · simp [hnew]
  rw [if_neg hnew]
  rcases Nat.lt_or_gt_of_ne hnew with hless | hmore
  · rw [List.getElem?_append_left (by simpa using hless), List.getElem?_set]
    by_cases hid : id = folder
    · simp [hid, hlt]
    · simp [hid, Ne.symm hid, Disk.node?]
  · have hid : id ≠ folder := Nat.ne_of_gt (Nat.lt_trans hlt hmore)
    have hpast : (d.nodes.set folder (.folder (entries ++ [(name, d.nodes.length)])) ++
        [node]).length ≤ id := by
      simpa using hmore
    rw [if_neg hid, List.getElem?_eq_none hpast, Disk.node?,
      List.getElem?_eq_none (Nat.le_of_lt hmore)]

/-- What the names of a folder stand for once a node was added. -/
theorem child?_add {folder : NodeId} {name : String} {node : Node} (h : d.Vacancy folder name)
    {other : NodeId} (hother : d.IsFolder other) (part : String) :
    (d.add folder name node).child? other part =
      if other = folder ∧ part = name then some d.nodes.length else d.child? other part := by
  obtain ⟨-, entries, hnode, hfree⟩ := h
  have hne : other ≠ d.nodes.length := Nat.ne_of_lt hother.lt
  simp only [child?, node?_add hnode, if_neg hne]
  by_cases hsame : other = folder
  · subst hsame
    simp [lookup_append_free hfree, hnode]
  · simp [hsame]

theorem Added.node? {node : Node} (h : Added node d d') {id : NodeId}
    (hfolder : ¬ d.IsFolder id) (hlt : id < d.nodes.length) : d'.node? id = d.node? id := by
  obtain ⟨folder, name, ⟨-, entries, hnode, -⟩, rfl⟩ := h
  have hne : id ≠ d.nodes.length := Nat.ne_of_lt hlt
  have hid : id ≠ folder := fun heq => hfolder ⟨entries, heq ▸ hnode⟩
  rw [node?_add hnode, if_neg hne, if_neg hid]

theorem Added.fileContent? {node : Node} (h : Added node d d') {id : NodeId} {content : Bytes}
    (hid : d.fileContent? id = some content) : d'.fileContent? id = some content := by
  rw [fileContent?_congr (h.node? (not_isFolder_of_fileContent? hid) (lt_of_fileContent? hid)), hid]

theorem Added.grows {node : Node} (h : Added node d d') : d.Grows d' := by
  obtain ⟨folder, name, ⟨-, entries, hnode, hfree⟩, rfl⟩ := h
  refine ⟨by simp [add, hnode], fun {id target} hid => ?_, fun {id inner} hid => ?_⟩
  · have hne : id ≠ d.nodes.length := Nat.ne_of_lt (List.getElem?_eq_some_iff.mp hid).1
    have hnot : id ≠ folder := by
      rintro rfl
      rw [hnode] at hid
      cases hid
    rw [node?_add hnode, if_neg hne, if_neg hnot, hid]
  · have hne : id ≠ d.nodes.length := Nat.ne_of_lt (IsFolder.lt ⟨inner, hid⟩)
    rw [node?_add hnode, if_neg hne]
    by_cases hsame : id = folder
    · subst hsame
      rw [hnode] at hid
      cases hid
      refine ⟨_, if_pos rfl, fun {part child} hlookup _ => ?_⟩
      have hpart : part ≠ name := by
        rintro rfl
        rw [hfree] at hlookup
        cases hlookup
      rw [lookup_append_free hfree, if_neg hpart, hlookup]
    · exact ⟨inner, by rw [if_neg hsame, hid], fun hlookup _ => hlookup⟩

/-! ### Changing a file, removing a name -/

theorem node?_put {id other : NodeId} {node : Node} (hid : id < d.nodes.length) :
    (d.put id node).node? other = if other = id then some node else d.node? other := by
  simp only [put, node?, List.getElem?_set]
  by_cases h : other = id
  · simp [h, hid]
  · simp [h, Ne.symm h]

theorem fileContent?_put {id other : NodeId} {content new : Bytes}
    (h : d.fileContent? id = some content) :
    (d.put id (.file new)).fileContent? other =
      if other = id then some new else d.fileContent? other := by
  simp only [fileContent?, node?_put (lt_of_fileContent? h)]
  by_cases hother : other = id <;> simp [hother]

theorem child?_put {id folder : NodeId} {content new : Bytes}
    (h : d.fileContent? id = some content) (name : String) :
    (d.put id (.file new)).child? folder name = d.child? folder name := by
  simp only [child?, node?_put (lt_of_fileContent? h)]
  by_cases hfolder : folder = id
  · have hnode := fileContent?_eq_some.mp h
    simp [hfolder, hnode]
  · simp [hfolder]

theorem grows_put {id : NodeId} {content : Bytes} (h : d.fileContent? id = some content)
    (new : Bytes) : d.Grows (d.put id (.file new)) := by
  have hnode := fileContent?_eq_some.mp h
  refine ⟨rfl, fun {other target} hother => ?_, fun {other entries} hother => ?_⟩
  · have hne : other ≠ id := by
      rintro rfl
      rw [hnode] at hother
      cases hother
    rw [node?_put (lt_of_fileContent? h), if_neg hne, hother]
  · have hne : other ≠ id := by
      rintro rfl
      rw [hnode] at hother
      cases hother
    exact ⟨entries, by rw [node?_put (lt_of_fileContent? h), if_neg hne, hother],
      fun hlookup _ => hlookup⟩

/-- A folder without one of its names. -/
def without (d : Disk) (folder : NodeId) (name : String) : Disk :=
  match d.node? folder with
  | some (.folder entries) => d.put folder (.folder (entries.filter fun named => named.1 != name))
  | _ => d

theorem node?_without {folder : NodeId} {name : String} {entries : List (String × NodeId)}
    (h : d.node? folder = some (.folder entries)) (id : NodeId) :
    (d.without folder name).node? id =
      if id = folder then some (.folder (entries.filter fun named => named.1 != name))
      else d.node? id := by
  simp only [without, h]
  exact node?_put (IsFolder.lt ⟨entries, h⟩)

theorem child?_without {folder : NodeId} (h : d.IsFolder folder) (name other : String) :
    (d.without folder name).child? folder other =
      if other = name then none else d.child? folder other := by
  obtain ⟨entries, hnode⟩ := h
  simp only [child?, node?_without hnode, if_pos, lookup_filter, hnode]

theorem fileContent?_without (folder id : NodeId) (name : String) :
    (d.without folder name).fileContent? id = d.fileContent? id := by
  by_cases h : d.IsFolder folder
  · obtain ⟨entries, hnode⟩ := h
    by_cases hid : id = folder
    · simp [fileContent?, node?_without hnode, hid, hnode]
    · simp [fileContent?, node?_without hnode, hid]
  · have hsame : d.without folder name = d := by
      simp only [without]
      split
      · rename_i entries hnode
        exact absurd ⟨entries, hnode⟩ h
      · rfl
    rw [hsame]

/-- A name that stands for a file can go without any walk noticing. -/
theorem grows_without {folder : NodeId} {name : String} {id : NodeId} {content : Bytes}
    (hentry : d.child? folder name = some id) (hfile : d.fileContent? id = some content) :
    d.Grows (d.without folder name) := by
  obtain ⟨entries, hnode, hlookup⟩ := child?_eq_some.mp hentry
  refine ⟨by simp [without, hnode, put], fun {other target} hother => ?_,
    fun {other inner} hother => ?_⟩
  · have hne : other ≠ folder := by
      rintro rfl
      rw [hnode] at hother
      cases hother
    rw [node?_without hnode, if_neg hne, hother]
  · rw [node?_without hnode]
    by_cases hsame : other = folder
    · subst hsame
      rw [hnode] at hother
      cases hother
      refine ⟨_, if_pos rfl, fun {part child} hpart hleading => ?_⟩
      have hne : part ≠ name := by
        rintro rfl
        rw [hlookup] at hpart
        cases hpart
        rcases hleading with hfolder | ⟨target, hlink⟩
        · exact not_isFolder_of_fileContent? hfile hfolder
        · rw [fileContent?_eq_some, hlink] at hfile
          cases hfile
      rw [lookup_filter, if_neg hne, hpart]
    · exact ⟨inner, by rw [if_neg hsame, hother], fun hpart _ => hpart⟩

end ScriptCache.Disk
