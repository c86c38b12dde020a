import Mathlib
import ScriptCache.Proofs.Machine.Reach

/-! What becomes of a folder of files when one of them is changed.

A file that gets another content, a name that goes, a file that comes into being: each leaves
the names of the folder standing for files (`Neat`), and every other name with the content it
had. -/
namespace ScriptCache.Disk

variable {d d' : Disk} {path name : String} {folder : NodeId} {P : String → Prop}

theorem content?_eq_some {content : Bytes} :
    d.content? folder name = some content ↔
      ∃ id, d.child? folder name = some id ∧ d.fileContent? id = some content := by
  simp only [content?, Option.bind_eq_some_iff]

theorem content?_of_child? {id : NodeId} (h : d.child? folder name = some id) :
    d.content? folder name = d.fileContent? id := by
  simp [content?, h]

theorem Neat.content? (h : d.Neat folder P) (hin : P name) {id : NodeId}
    (hentry : d.child? folder name = some id) :
    ∃ content, d.content? folder name = some content := by
  obtain ⟨content, hfile⟩ := h.file hin hentry
  exact ⟨content, content?_eq_some.mpr ⟨id, hentry, hfile⟩⟩

/-! ### Another content -/

theorem Neat.put {id : NodeId} {content : Bytes} (h : d.Neat folder P)
    (hid : d.fileContent? id = some content) (new : Bytes) :
    (d.put id (.file new)).Neat folder P := by
  refine ⟨(grows_put hid new).isFolder h.isFolder, fun {part other} hin hentry => ?_,
    fun {part part' other} hin hin' hentry hentry' => ?_⟩
  · rw [child?_put hid] at hentry
    obtain ⟨old, hold⟩ := h.file hin hentry
    rw [fileContent?_put hid]
    by_cases hother : other = id
    · exact ⟨new, if_pos hother⟩
    · exact ⟨old, by rw [if_neg hother, hold]⟩
  · rw [child?_put hid] at hentry hentry'
    exact h.apart hin hin' hentry hentry'

theorem Neat.content?_put {id : NodeId} {content : Bytes} (h : d.Neat folder P) (hin : P name)
    (hentry : d.child? folder name = some id) (hid : d.fileContent? id = some content)
    (new : Bytes) {part : String} (hin' : P part) :
    (d.put id (.file new)).content? folder part =
      if part = name then some new else d.content? folder part := by
  simp only [Disk.content?, child?_put hid]
  by_cases hpart : part = name
  · simp [hpart, hentry, fileContent?_put hid]
  · rw [if_neg hpart]
    cases hother : d.child? folder part with
    | none => rfl
    | some other =>
      have hne : other ≠ id := fun heq => hpart (h.apart hin' hin hother (heq ▸ hentry))
      simp [fileContent?_put hid, hne]

/-! ### A name that goes -/

theorem Neat.without (h : d.Neat folder P) (name : String) :
    (d.without folder name).Neat folder P := by
  refine ⟨?_, fun {part id} hin hentry => ?_, fun {part part' id} hin hin' hentry hentry' => ?_⟩
  · obtain ⟨entries, hnode⟩ := h.isFolder
    exact ⟨_, by rw [node?_without hnode, if_pos rfl]⟩
  · rw [child?_without h.isFolder] at hentry
    split at hentry
    · cases hentry
    · rw [fileContent?_without]
      exact h.file hin hentry
  · rw [child?_without h.isFolder] at hentry hentry'
    split at hentry
    · cases hentry
    · split at hentry'
      · cases hentry'
      · exact h.apart hin hin' hentry hentry'

theorem Neat.content?_without (h : d.Neat folder P) (name part : String) :
    (d.without folder name).content? folder part =
      if part = name then none else d.content? folder part := by
  simp only [Disk.content?, child?_without h.isFolder]
  by_cases hpart : part = name
  · simp [hpart]
  · simp only [if_neg hpart]
    congr 1
    funext id
    exact fileContent?_without folder id name

/-! ### A file that comes into being -/

/-- A new file is new under every name of the folder that stands for it. -/
theorem Neat.child?_added {node : Node} (h : d.Neat folder P) (hadded : d.Added node d')
    (part : String) :
    d'.child? folder part = d.child? folder part ∨
      d.child? folder part = none ∧ d'.child? folder part = some d.nodes.length := by
  obtain ⟨place, name, hvacancy, rfl⟩ := hadded
  rw [child?_add hvacancy h.isFolder]
  by_cases hhere : folder = place ∧ part = name
  · obtain ⟨rfl, rfl⟩ := hhere
    exact .inr ⟨(vacancy_iff.mp hvacancy).2.2, if_pos ⟨rfl, rfl⟩⟩
  · exact .inl (if_neg hhere)

theorem Added.fileContent?_new (hadded : d.Added (.file []) d') :
    d'.fileContent? d.nodes.length = some [] := by
  obtain ⟨place, name, ⟨-, entries, hnode, -⟩, rfl⟩ := hadded
  rw [fileContent?_eq_some, node?_add hnode, if_pos rfl]

theorem Neat.added (h : d.Neat folder P) (hadded : d.Added (.file []) d') : d'.Neat folder P := by
  have hlt {part : String} {id : NodeId} (hin : P part)
      (hentry : d.child? folder part = some id) : id ≠ d.nodes.length := by
    obtain ⟨content, hfile⟩ := h.file hin hentry
    exact Nat.ne_of_lt (lt_of_fileContent? hfile)
  have hname {part part' : String} (hentry : d.child? folder part = none)
      (hentry' : d.child? folder part' = none) (hnew : d'.child? folder part = some d.nodes.length)
      (hnew' : d'.child? folder part' = some d.nodes.length) : part = part' := by
    obtain ⟨place, name, hvacancy, rfl⟩ := hadded
    rw [child?_add hvacancy h.isFolder] at hnew hnew'
    split at hnew
    · rename_i hpart
      split at hnew'
      · rename_i hpart'
        exact hpart.2.trans hpart'.2.symm
      · rw [hentry'] at hnew'
        cases hnew'
    · rw [hentry] at hnew
      cases hnew
  refine ⟨hadded.grows.isFolder h.isFolder, fun {part id} hin hentry => ?_,
    fun {part part' id} hin hin' hentry hentry' => ?_⟩
  · rcases h.child?_added hadded part with hsame | ⟨-, hnew⟩
    · obtain ⟨content, hfile⟩ := h.file hin (hsame ▸ hentry)
      exact ⟨content, hadded.fileContent? hfile⟩
    · rw [hnew] at hentry
      cases hentry
      exact ⟨[], hadded.fileContent?_new⟩
  · rcases h.child?_added hadded part with hsame | ⟨hfree, hnew⟩ <;>
      rcases h.child?_added hadded part' with hsame' | ⟨hfree', hnew'⟩
    · exact h.apart hin hin' (hsame ▸ hentry) (hsame' ▸ hentry')
    · rw [hnew'] at hentry'
      cases hentry'
      exact absurd rfl (hlt hin (hsame ▸ hentry))
    · rw [hnew] at hentry
      cases hentry
      exact absurd rfl (hlt hin' (hsame' ▸ hentry'))
    · rw [hnew] at hentry
      cases hentry
      exact hname hfree hfree' hnew hnew'

/-- Every name keeps its content, or is new and an empty file's. -/
theorem Neat.content?_added (h : d.Neat folder P) (hadded : d.Added (.file []) d')
    (part : String) (hin : P part) :
    d'.content? folder part = d.content? folder part ∨
      d.content? folder part = none ∧ d'.content? folder part = some [] := by
  rcases h.child?_added hadded part with hsame | ⟨hfree, hnew⟩
  · left
    cases hentry : d.child? folder part with
    | none => simp [Disk.content?, hsame, hentry]
    | some id =>
      obtain ⟨content, hfile⟩ := h.file hin hentry
      simp [Disk.content?, hsame, hentry, hfile, hadded.fileContent? hfile]
  · right
    exact ⟨by simp [Disk.content?, hfree],
      by simp [Disk.content?, hnew, hadded.fileContent?_new]⟩

/-- A file that was asked for in a folder is there after that, and the others are as they were. -/
theorem Neat.ensured {id : NodeId} (h : d.Leads path folder) (hneat : d.Neat folder P)
    (hin : P name) (hname : Path.Plain name)
    (hfile : d.ensureFile (Path.join path name) = .ok (id, d')) :
    d'.Leads path folder ∧ d'.Neat folder P ∧ d'.child? folder name = some id ∧
      ∀ part, P part → part ≠ name → d'.content? folder part = d.content? folder part := by
  obtain ⟨hleads, hentry⟩ := child?_of_ensureFile h hneat hin hname hfile
  obtain ⟨⟨-, hshort⟩, ⟨-, rfl⟩ | ⟨hfree, rfl, rfl⟩⟩ :=
    (ensureFile_join h hneat hin hname).mp hfile
  · exact ⟨hleads, hneat, hentry, fun _ _ _ => rfl⟩
  · have hvacancy := vacancy_iff.mpr ⟨hshort, hneat.isFolder, hfree⟩
    have hadded : d.Added (.file []) (d.add folder name (.file [])) := ⟨folder, name, hvacancy, rfl⟩
    refine ⟨hleads, hneat.added hadded, hentry, fun part hpart hne => ?_⟩
    have hsame : (d.add folder name (.file [])).child? folder part = d.child? folder part := by
      rw [child?_add hvacancy hneat.isFolder, if_neg fun heq => hne heq.2]
    cases hother : d.child? folder part with
    | none => rw [Disk.content?, Disk.content?, hsame, hother, Option.bind_none, Option.bind_none]
    | some other =>
      obtain ⟨content, hcontent⟩ := hneat.file hpart hother
      rw [content?_of_child? (hsame.trans hother), content?_of_child? hother,
        hadded.fileContent? hcontent, hcontent]

/-- A folder that was just made is neat. -/
theorem neat_of_empty (h : d.node? folder = some (.folder [])) : d.Neat folder P := by
  have hentry (part : String) : d.child? folder part = none := by simp [child?, h]
  refine ⟨⟨[], h⟩, fun {part id} _ hid => ?_, fun {part part' id} _ _ hid _ => ?_⟩ <;>
  · rw [hentry] at hid
    cases hid

theorem content?_of_empty (h : d.node? folder = some (.folder [])) (part : String) :
    d.content? folder part = none := by
  simp [content?, child?, h]

end ScriptCache.Disk
