import Mathlib
import ScriptCache.Dependency.Table

/-! Two dependency tables are the same when one is a reordering of the other.

Tables are compared after sorting by name and digest, both byte by byte. The order is total
and tells any two entries apart, because a text is known by its bytes; so sorting forgets
exactly the order of the entries (`same_iff_perm`). What counts is therefore how often each entry
was pushed: not when, nor what else was pushed before or behind it (`same_exact`). -/
namespace ScriptCache

theorem Digest.bytes_injective : Function.Injective Digest.bytes := by
  rintro ⟨a, ha⟩ ⟨b, hb⟩ h
  cases h
  rfl

theorem Bytes.compare_eq (a b : Bytes) : Bytes.compare a b = Ord.compare a b := by
  rw [List.compare_eq_compareLex]
  induction a generalizing b with
  | nil => cases b <;> simp [Bytes.compare, List.compareLex_nil_nil, List.compareLex_nil_cons]
  | cons x a ih =>
    cases b with
    | nil => simp [Bytes.compare, List.compareLex_cons_nil]
    | cons y b => rw [Bytes.compare, List.compareLex_cons_cons, ih]

namespace Dependency

/-- The order of entries is that of their names, then that of their digests. -/
theorem compare_eq (a b : Dependency) :
    Dependency.compare a b =
      compareLex (compareOn fun d => Utf8.encode d.name) (compareOn fun d => d.digest.bytes) a b := by
  rw [Dependency.compare, Bytes.compare_eq, Digest.compare, Bytes.compare_eq]
  rfl

theorem le_trans (a b c : Dependency) (hab : le a b) (hbc : le b c) : le a c := by
  rw [le, compare_eq] at hab hbc ⊢
  exact Std.TransCmp.isLE_trans hab hbc

theorem le_total (a b : Dependency) : le a b || le b a := by
  rw [le, le, compare_eq, compare_eq, Bool.or_eq_true]
  by_cases h : (compareLex (compareOn fun d => Utf8.encode d.name)
      (compareOn fun d => d.digest.bytes) a b).isLE
  · exact .inl h
  · exact .inr (Ordering.isLE_of_eq_lt (Std.OrientedCmp.lt_of_not_isLE h))

/-- Only an entry itself stands neither before nor behind it. -/
theorem le_antisymm {a b : Dependency} (hab : le a b) (hba : le b a) : a = b := by
  rw [le, compare_eq] at hab hba
  have heq := Std.OrientedCmp.isLE_antisymm hab hba
  rw [compareLex_eq_eq] at heq
  obtain ⟨hname, hdigest⟩ := heq
  have hname : a.name = b.name := Utf8.encode_injective (Std.LawfulEqOrd.eq_of_compare hname)
  have hdigest : a.digest = b.digest :=
    Digest.bytes_injective (Std.LawfulEqOrd.eq_of_compare hdigest)
  cases a
  cases b
  simp_all

end Dependency

namespace DependencyTable

theorem sorted_perm (table : DependencyTable) : table.sorted.Perm table.entries :=
  List.mergeSort_perm _ _

theorem sorted_pairwise (table : DependencyTable) :
    table.sorted.Pairwise fun a b => Dependency.le a b :=
  List.pairwise_mergeSort Dependency.le_trans Dependency.le_total _

/-- Sorting forgets the order of the entries and nothing else. -/
theorem sorted_eq_iff (a b : DependencyTable) : a.sorted = b.sorted ↔ a.entries.Perm b.entries := by
  constructor
  · intro h
    exact (h ▸ a.sorted_perm.symm).trans b.sorted_perm
  · intro h
    exact List.Perm.eq_of_pairwise (fun _ _ _ _ => Dependency.le_antisymm) a.sorted_pairwise
      b.sorted_pairwise (a.sorted_perm.trans (h.trans b.sorted_perm.symm))

/-- Two tables are the same when they hold the same entries equally often. -/
theorem same_iff_perm (a b : DependencyTable) : a.same b ↔ a.entries.Perm b.entries := by
  rw [← sorted_eq_iff]
  constructor
  · intro h
    simp only [same, Bool.and_eq_true, decide_eq_true_eq] at h
    exact h.2
  · intro h
    have hsize : a.size = b.size := ((sorted_eq_iff a b).mp h).length_eq
    simp [same, hsize, h]

theorem same_iff_count (a b : DependencyTable) :
    a.same b ↔ ∀ d, a.entries.count d = b.entries.count d :=
  (same_iff_perm a b).trans List.perm_iff_count

theorem same_equivalence : Equivalence fun a b : DependencyTable => a.same b = true where
  refl a := (same_iff_perm a a).mpr (.refl _)
  symm h := (same_iff_perm _ _).mpr ((same_iff_perm _ _).mp h).symm
  trans h h' :=
    (same_iff_perm _ _).mpr (((same_iff_perm _ _).mp h).trans ((same_iff_perm _ _).mp h'))

/-- A reordered table is the same as just those tables that the table is the same as. -/
theorem same_reordered {a a' : DependencyTable} (h : a.entries.Perm a'.entries)
    (b : DependencyTable) : a.same b = a'.same b := by
  have hsame : a.same a' = true := (same_iff_perm a a').mpr h
  rw [Bool.eq_iff_iff]
  exact ⟨same_equivalence.trans (same_equivalence.symm hsame), same_equivalence.trans hsame⟩

/-! ### Pushes -/

/-- A table with some more entries, pushed one after another. -/
def pushAll (table : DependencyTable) (pushed : List Dependency) : DependencyTable :=
  pushed.foldl (fun table d => table.push d.name d.digest) table

theorem entries_pushAll (table : DependencyTable) (pushed : List Dependency) :
    (table.pushAll pushed).entries = table.entries ++ pushed := by
  induction pushed generalizing table with
  | nil => exact (List.append_nil _).symm
  | cons d pushed ih =>
    show ((table.push d.name d.digest).pushAll pushed).entries = _
    rw [ih, entries_push, List.append_assoc]
    rfl

theorem same_push (a b : DependencyTable) (name : String) (digest : Digest) :
    (a.push name digest).same (b.push name digest) = a.same b := by
  rw [Bool.eq_iff_iff, same_iff_perm, same_iff_perm, entries_push, entries_push,
    List.perm_append_right_iff]

/-- Two tables are the same exactly if every name occurs in them equally often with every digest,
which is to say that the entries of one are those of the other in some order. So being the same is an
equivalence, it does not depend on the order of pushes, and an entry pushed onto both tables leaves
it as it was. -/
theorem same_exact {pushed pushed' : List Dependency} (h : pushed.Perm pushed')
    (a b : DependencyTable) :
    (a.same b = true ↔
        ∀ name digest, a.entries.count ⟨name, digest⟩ = b.entries.count ⟨name, digest⟩) ∧
      (a.same b = true ↔ a.entries.Perm b.entries) ∧
      (Equivalence fun a b : DependencyTable => a.same b = true) ∧
      (a.pushAll pushed).same b = (a.pushAll pushed').same b ∧
      ∀ name digest, (a.push name digest).same (b.push name digest) = a.same b := by
  have hcount := same_iff_count a b
  have hreordered : (a.pushAll pushed).entries.Perm (a.pushAll pushed').entries := by
    rw [entries_pushAll, entries_pushAll]
    exact h.append_left a.entries
  exact ⟨⟨fun hsame name digest => hcount.mp hsame ⟨name, digest⟩,
    fun heq => hcount.mpr fun d => heq d.name d.digest⟩, same_iff_perm a b, same_equivalence,
    same_reordered hreordered b, same_push a b⟩

/-- An entry that is pushed twice may be pushed at any time, but not once only. -/
theorem same_of_pushed_in_turn :
    let d : Digest := ⟨List.replicate 16 0, rfl⟩
    let script : Dependency := ⟨"a", d⟩
    let core : Dependency := ⟨"core", d⟩
    [script, core, script].Perm [core, script, script] ∧
      (pushAll {} [script, core, script]).same (pushAll {} [core, script, script]) = true ∧
      (pushAll {} [script, core, script]).same (pushAll {} [script, core]) = false := by
  intro d script core
  have hperm : [script, core, script].Perm [core, script, script] := .swap _ _ _
  obtain ⟨-, -, hequivalence, hpushed, -⟩ :=
    same_exact hperm {} (pushAll {} [core, script, script])
  obtain ⟨hcount, -⟩ := same_exact hperm (pushAll {} [script, core, script]) (pushAll {} [script, core])
  refine ⟨hperm, hpushed.trans (hequivalence.refl _), ?_⟩
  rw [← Bool.not_eq_true, hcount]
  intro heq
  have htwice : 2 = 1 := heq "a" d
  cases htwice

end DependencyTable

end ScriptCache
