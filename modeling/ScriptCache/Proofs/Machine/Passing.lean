import Mathlib
import ScriptCache.Proofs.Machine.Reading

/-! The passing of time.

While time passes others close files, each at its time, and nothing else happens (`pass_eq`). So
two spans in a row are one span (`pass_pass`), and a file that was opened meanwhile, which nobody
else is to close, is open before as after (`pass_addFile`). -/
namespace ScriptCache.Machine

variable {m m' : Machine}

/-! ### What time closes -/

/-- Whether a file is to be closed by others by some time. -/
def Due (m : Machine) (clock : Nat) (handle : Handle) : Prop :=
  ∃ release ∈ m.releases, release.1 ≤ clock ∧ release.2 = handle

instance (m : Machine) (clock : Nat) (handle : Handle) : Decidable (m.Due clock handle) :=
  inferInstanceAs (Decidable (∃ release ∈ m.releases, _))

theorem closeAll_eq (releases : List (Nat × Handle)) (m : Machine) :
    releases.foldl (fun m release => m.close release.2) m =
      { m with files := m.files.mapIdx fun handle file =>
        if handle ∈ releases.map Prod.snd then none else file } := by
  induction releases generalizing m with
  | nil =>
    have hfiles : (m.files.mapIdx fun handle file =>
        if handle ∈ ([] : List (Nat × Handle)).map Prod.snd then none else file) = m.files :=
      List.ext_getElem? fun i => by simp
    rw [hfiles]
    rfl
  | cons release releases ih =>
    rw [List.foldl_cons, ih]
    show ({ m with files := _ } : Machine) = _
    congr 1
    refine List.ext_getElem? fun i => ?_
    simp only [close, setFile, List.getElem?_mapIdx, List.getElem?_set, List.map_cons,
      List.mem_cons]
    by_cases hi : release.2 = i
    · subst hi
      by_cases hlt : release.2 < m.files.length <;> simp [hlt]
    · simp only [if_neg hi, Ne.symm hi, false_or]

/-- While time passes, the files that are due are closed. -/
theorem pass_eq (m : Machine) (span : Nat) : m.pass span =
    { m with
      clock := m.clock + span
      releases := m.releases.filter fun release => m.clock + span < release.1
      files := m.files.mapIdx fun handle file =>
        if m.Due (m.clock + span) handle then none else file } := by
  rw [pass, closeAll_eq]
  congr 1
  refine List.ext_getElem? fun i => ?_
  simp only [List.getElem?_mapIdx]
  have hdue : i ∈ (m.releases.filter fun release => release.1 ≤ m.clock + span).map Prod.snd ↔
      m.Due (m.clock + span) i := by
    simp only [List.mem_map, List.mem_filter, decide_eq_true_eq, Due, and_assoc]
  simp only [hdue]

@[simp] theorem clock_pass (m : Machine) (span : Nat) : (m.pass span).clock = m.clock + span := by
  rw [pass_eq]

theorem releases_pass (m : Machine) (span : Nat) :
    (m.pass span).releases = m.releases.filter fun release => m.clock + span < release.1 := by
  rw [pass_eq]

@[simp] theorem length_pass (m : Machine) (span : Nat) :
    (m.pass span).files.length = m.files.length := by
  rw [pass_eq, List.length_mapIdx]

/-- What is due after two spans was due after the first, or still was to come and is due. -/
theorem due_pass (m : Machine) (first second : Nat) (handle : Handle) :
    m.Due (m.clock + (first + second)) handle ↔ m.Due (m.clock + first) handle ∨
      (m.pass first).Due (m.clock + first + second) handle := by
  simp only [Due, releases_pass, List.mem_filter, decide_eq_true_eq]
  constructor
  · rintro ⟨release, hmem, hdue, hhandle⟩
    rcases Nat.lt_or_ge (m.clock + first) release.1 with hlater | hsooner
    · exact .inr ⟨release, ⟨hmem, hlater⟩, by omega, hhandle⟩
    · exact .inl ⟨release, hmem, hsooner, hhandle⟩
  · rintro (⟨release, hmem, hdue, hhandle⟩ | ⟨release, ⟨hmem, -⟩, hdue, hhandle⟩)
    · exact ⟨release, hmem, by omega, hhandle⟩
    · exact ⟨release, hmem, by omega, hhandle⟩

/-- Two spans of time in a row are one. -/
theorem pass_pass (m : Machine) (first second : Nat) :
    (m.pass first).pass second = m.pass (first + second) := by
  have hfiles : ((m.pass first).pass second).files = (m.pass (first + second)).files := by
    refine List.ext_getElem? fun i => ?_
    rw [pass_eq (m.pass first), pass_eq m (first + second)]
    simp only [List.getElem?_mapIdx, clock_pass, due_pass m first second i]
    rw [pass_eq m first]
    simp only [List.getElem?_mapIdx]
    cases m.files[i]? with
    | none => rfl
    | some file =>
      by_cases hfirst : m.Due (m.clock + first) i
      · simp only [hfirst, true_or, if_true, Option.map_some, ite_self]
      · simp only [hfirst, false_or, if_false, Option.map_some]
  have hreleases : ((m.pass first).pass second).releases = (m.pass (first + second)).releases := by
    rw [releases_pass, releases_pass, releases_pass, List.filter_filter, clock_pass]
    refine List.filter_congr fun release _ => ?_
    rw [← Nat.add_assoc, ← Bool.decide_and]
    exact decide_eq_decide.mpr ⟨And.left, fun h => ⟨h, by omega⟩⟩
  rw [pass_eq (m.pass first), pass_eq m (first + second)] at hfiles hreleases ⊢
  simp only [Machine.mk.injEq]
  exact ⟨disk_pass m first, by rw [pass_eq], by rw [pass_eq], hfiles,
    by rw [clock_pass, Nat.add_assoc], hreleases, by rw [pass_eq]⟩

/-! ### Time and what else is done -/

/-- Whether the files that others are to close have been opened. -/
def ClosesOpened (m : Machine) : Prop :=
  ∀ release ∈ m.releases, release.2 < m.files.length

theorem ClosesOpened.pass (h : m.ClosesOpened) (span : Nat) : (m.pass span).ClosesOpened := by
  intro release hrelease
  rw [length_pass]
  rw [releases_pass] at hrelease
  exact h release (List.mem_of_mem_filter hrelease)

/-- A file that was just opened is open before as after. -/
theorem pass_addFile (h : m.ClosesOpened) (file : OpenFile) (span : Nat) :
    (m.addFile file).2.pass span = ((m.pass span).addFile file).2 := by
  have hnew : ¬ m.Due (m.clock + span) m.files.length := by
    rintro ⟨release, hrelease, -, hhandle⟩
    exact absurd (h release hrelease) (by rw [hhandle]; exact Nat.lt_irrefl _)
  rw [pass_eq, pass_eq]
  simp only [addFile, Machine.mk.injEq, true_and, and_true]
  refine ⟨List.ext_getElem? fun i => ?_, rfl⟩
  have hsame : ({ m with files := m.files ++ [some file] } : Machine).Due (m.clock + span) =
      m.Due (m.clock + span) := rfl
  simp only [List.getElem?_mapIdx, hsame, List.getElem?_append, List.length_mapIdx]
  by_cases hlt : i < m.files.length
  · simp only [if_pos hlt]
  · rw [if_neg hlt, if_neg hlt]
    by_cases hi : i = m.files.length
    · subst hi
      simp [hnew]
    · rw [List.getElem?_eq_none (by simp; omega)]
      rfl

theorem pass_disk (m : Machine) (disk : Disk) (span : Nat) :
    ({ m with disk } : Machine).pass span = { m.pass span with disk } := by
  rw [pass_eq, pass_eq]
  rfl

theorem Spoken.pass (h : m.Spoken m') (span : Nat) : (m.pass span).Spoken (m'.pass span) := by
  obtain ⟨events, rfl⟩ := h
  exact ⟨events, by rw [pass_eq, pass_eq]; rfl⟩

end ScriptCache.Machine
