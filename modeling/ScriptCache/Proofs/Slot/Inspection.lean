import Mathlib
import ScriptCache.Proofs.Dependency.Multiset
import ScriptCache.Proofs.Machine.Reading
import ScriptCache.Slot.InfoFile

/-! What looking at an info file comes to.

What the file is found to be can be told from what is read at its path (`Metadata.found`); looking
at it leaves the disk and the open files as they were (`inspect_found`). Only bytes that break their
reader off break this off, too (`found_eq_brokenOff`). -/
namespace ScriptCache

/-! ### What metadata is worth -/

theorem Metadata.judge_eq (metadata : Metadata) (dependencies : DependencyTable)
    (signature : Bytes) : metadata.judge dependencies signature =
      if ¬ metadata.dependencies.entries.Perm dependencies.entries then .stale .dependencies
      else if metadata.signature ≠ signature then .stale .signature
      else .valid metadata := by
  have hsame : (!metadata.dependencies.same dependencies) = true ↔
      ¬ metadata.dependencies.entries.Perm dependencies.entries := by
    rw [← DependencyTable.same_iff_perm]
    simp
  simp only [judge, hsame]

/-- What metadata is worth to a build depends on its dependencies and its signature alone. -/
theorem judge_cases (m : Metadata) (dependencies : DependencyTable) (signature : Bytes) :
    (∃ reason, m.judge dependencies signature = .stale reason ∧
      ¬ (m.dependencies.entries.Perm dependencies.entries ∧ m.signature = signature)) ∨
    m.judge dependencies signature = .valid m ∧
      m.dependencies.entries.Perm dependencies.entries ∧ m.signature = signature := by
  rw [Metadata.judge_eq]
  by_cases hperm : m.dependencies.entries.Perm dependencies.entries
  · by_cases hsignature : m.signature = signature
    · exact .inr ⟨by simp [hperm, hsignature], hperm, hsignature⟩
    · exact .inl ⟨.signature, by simp [hperm, hsignature], fun h => hsignature h.2⟩
  · exact .inl ⟨.dependencies, by simp [hperm], fun h => hperm h.1⟩

/-! ### Info files -/

section

variable [Wire.Memory] {dependencies : DependencyTable} {signature : Bytes}

namespace Metadata

/-- Whether bytes, read as an info file, break the reading off. -/
def BreaksOff (bytes : Bytes) : Prop :=
  ∃ flaw, decode bytes = .error flaw ∧ flaw.breaksOff = true

/-- What an info file is found to be, by what is read at its path. -/
def found (dependencies : DependencyTable) (signature : Bytes) :
    Except SysError Bytes → InfoOutcome
  | .error .notFound => .missing
  | .error e => .corrupt (.unreadable e)
  | .ok raw =>
    match decode raw with
    | .error flaw => if flaw.breaksOff then .brokenOff else .corrupt (.malformed flaw)
    | .ok metadata => metadata.judge dependencies signature

theorem not_breaksOff_nil : ¬ BreaksOff [] := by
  rintro ⟨flaw, hflaw, hbreaks⟩
  cases hflaw
  cases hbreaks

theorem found_eq_brokenOff {read : Except SysError Bytes}
    (h : found dependencies signature read = .brokenOff) :
    ∃ raw, read = .ok raw ∧ BreaksOff raw := by
  cases read with
  | error e => cases e <;> cases h
  | ok raw =>
    rw [found] at h
    cases hdecode : decode raw with
    | error flaw =>
      rw [hdecode] at h
      cases hbreaks : flaw.breaksOff with
      | true => exact ⟨raw, rfl, flaw, hdecode, hbreaks⟩
      | false =>
        simp only [hbreaks, Bool.false_eq_true, if_false] at h
        cases h
    | ok metadata =>
      rw [hdecode] at h
      rcases judge_cases metadata dependencies signature with ⟨reason, hstale, -⟩ | ⟨hvalid, -⟩
      · cases hstale.symm.trans h
      · cases hvalid.symm.trans h

end Metadata

theorem inspect_found (path : String) (dependencies : DependencyTable) (signature : Bytes)
    (m : Machine) :
    ((Metadata.inspect path dependencies signature).run m).1 =
        Metadata.found dependencies signature (m.contents path) ∧
      ((Metadata.inspect path dependencies signature).run m).2.disk = m.disk ∧
      ∀ handle < m.files.length,
        ((Metadata.inspect path dependencies signature).run m).2.file? handle = m.file? handle := by
  obtain ⟨hfound, hdisk⟩ := read_run path m
  have hfiles (handle : Handle) (h : handle < m.files.length) := read_files path m h
  rw [Metadata.inspect, Routine.run_bind, ← hfound]
  generalize (Files.read path).run m = read at *
  obtain ⟨found, after⟩ := read
  cases found with
  | error e => cases e <;> exact ⟨rfl, hdisk, hfiles⟩
  | ok raw =>
    simp only [Metadata.found]
    cases Metadata.decode raw with
    | ok metadata => exact ⟨rfl, hdisk, hfiles⟩
    | error flaw =>
      cases hbreaks : flaw.breaksOff with
      | true =>
        simp only [hbreaks, if_true]
        exact ⟨rfl, hdisk, hfiles⟩
      | false =>
        simp only [hbreaks, Bool.false_eq_true, if_false]
        exact ⟨rfl, hdisk, hfiles⟩

end

end ScriptCache
