import Mathlib
import ScriptCache.Proofs.Machine.Sight

/-! Asking for a file when another was made.

A walk to a file that comes to a place comes there on a disk with one empty file more, or it found
a name free that the new file has now (`walkToFile_gain`). So who asks for a file again finds the
one that was made (`ensureFile_again`), and who asks for another finds what was found before, or a
file that is new in both cases (`ensureFile_gain`). -/
namespace ScriptCache.Disk

variable {d d' made : Disk} {path : String} {id : NodeId}

theorem stride_free_gain (h : d.Added (.file []) d') {follow : Bool}
    {entry : Option (NodeId × String)} {current : NodeId} {above : List NodeId} {ps : List String}
    {folder : NodeId} {name : String}
    (hfree : d.stride follow entry current above ps = .ok (.arrived (.free folder name))) :
    d'.stride follow entry current above ps = .ok (.arrived (.free folder name)) ∨
      ∃ last, d'.stride follow entry current above ps =
        .ok (.arrived (.taken d.nodes.length last)) := by
  induction ps generalizing entry current above with
  | nil => cases hfree
  | cons p ps ih =>
    rw [stride_cons] at hfree ⊢
    rcases hop_gain h current above p with hsame | ⟨hmissing, hnew⟩
    · rw [hsame]
      cases hhop : d.hop current above p with
      | error e =>
        rw [hhop] at hfree
        cases hfree
      | ok result =>
        rw [hhop] at hfree
        cases result with
        | stand entry' current' above' => exact ih hfree
        | missing => exact .inl hfree
        | link id target => exact .inl hfree
    · rw [hmissing] at hfree
      rw [hnew]
      cases ps with
      | nil => exact .inr ⟨_, rfl⟩
      | cons q qs => cases hfree

/-- A walk to a file on a disk with one empty file more comes where it came, or it found a name
free and comes to the new file. -/
theorem walkToFile_gain (h : d.Added (.file []) d') {links : Nat} {slash : Bool} {current : NodeId}
    {above : List NodeId} {ps : List String} {place : Place}
    (hplace : d.walkToFile links slash current above ps = .ok place) :
    d'.walkToFile links slash current above ps = .ok place ∨
      (∃ folder name, place = .free folder name) ∧
        ∃ entry, d'.walkToFile links slash current above ps =
          .ok (.taken d.nodes.length entry) := by
  induction links using Nat.strong_induction_on generalizing slash current above ps with
  | _ links ih =>
    obtain ⟨rfl, -⟩ := walk_of_walkToFile hplace
    rw [walkToFile_eq] at hplace ⊢
    cases hstride : d.stride true none current above ps with
    | error e =>
      rw [hstride] at hplace
      cases hplace
    | ok stride =>
      rw [hstride] at hplace
      cases stride with
      | arrived place' =>
        cases hplace
        cases place with
        | taken id entry =>
          rw [stride_of_added h nofun hstride (by simp)]
          exact .inl rfl
        | free folder name =>
          rcases stride_free_gain h hstride with hsame | ⟨last, hnew⟩
          · rw [hsame]
            exact .inl rfl
          · rw [hnew]
            exact .inr ⟨⟨folder, name, rfl⟩, last, rfl⟩
      | jump at_ higher target left =>
        rw [stride_of_added h nofun hstride (by simp)]
        cases links with
        | zero => cases hplace
        | succ fewer =>
          simp only at hplace ⊢
          split at hplace
          · rename_i hlast
            rw [if_pos hlast]
            exact ih fewer (Nat.lt_succ_self fewer) hplace
          · rename_i hmore
            rw [if_neg hmore]
            exact ih fewer (Nat.lt_succ_self fewer) hplace

/-- What is asked for again is what was asked for. -/
theorem ensureFile_again (h : d.ensureFile path = .ok (id, d')) :
    d'.ensureFile path = .ok (id, d') := by
  obtain ⟨hcheck, ⟨folder, name, hwalk, rfl, rfl⟩ | ⟨entry, -, -, rfl⟩⟩ := ensureFile_eq_ok_iff.mp h
  · have hvacancy := walkToFile_free hwalk
    have hadded : d.Added (.file []) (d.add folder name (.file [])) :=
      ⟨folder, name, hvacancy, rfl⟩
    refine ensureFile_eq_ok_iff.mpr ⟨hcheck, .inr ?_⟩
    rw [hadded.start]
    rcases walkToFile_gain hadded hwalk with hfree | ⟨-, entry, hnew⟩
    · -- The name is there now, so it cannot be free.
      have hentry := (vacancy_iff.mp (walkToFile_free hfree)).2.2
      rw [child?_add hvacancy (vacancy_iff.mp hvacancy).2.1, if_pos ⟨rfl, rfl⟩] at hentry
      cases hentry
    · exact ⟨entry, hnew, hadded.new_not_isFolder, rfl⟩
  · exact h

/-- What is found at a path when an empty file was added elsewhere: the same file, or one that is
new, as it would have been. -/
theorem ensureFile_gain (h : d.Added (.file []) d') (hensure : d.ensureFile path = .ok (id, made)) :
    ∃ id' made', d'.ensureFile path = .ok (id', made') ∧
      (id' = id ∨ d.nodes.length ≤ id ∧ d.nodes.length ≤ id') := by
  obtain ⟨hcheck, ⟨folder, name, hwalk, rfl, -⟩ | ⟨entry, hwalk, hnot, -⟩⟩ :=
    ensureFile_eq_ok_iff.mp hensure
  · rcases walkToFile_gain h hwalk with hfree | ⟨-, entry, hnew⟩
    · rw [← h.start] at hfree
      refine ⟨_, _, ensureFile_eq_ok_iff.mpr ⟨hcheck, .inl ⟨folder, name, hfree, rfl, rfl⟩⟩,
        .inr ⟨Nat.le_refl _, ?_⟩⟩
      obtain ⟨folder', name', ⟨-, entries, hnode, -⟩, rfl⟩ := h
      simp [add, hnode]
    · rw [← h.start] at hnew
      exact ⟨_, _, ensureFile_eq_ok_iff.mpr ⟨hcheck, .inr ⟨entry, hnew, h.new_not_isFolder, rfl⟩⟩,
        .inl rfl⟩
  · rcases walkToFile_gain h hwalk with hsame | ⟨⟨folder, name, hfree⟩, -⟩
    · rw [← h.start] at hsame
      exact ⟨_, _, ensureFile_eq_ok_iff.mpr ⟨hcheck, .inr ⟨entry, hsame, h.not_isFolder hnot, rfl⟩⟩,
        .inl rfl⟩
    · cases hfree

end ScriptCache.Disk
