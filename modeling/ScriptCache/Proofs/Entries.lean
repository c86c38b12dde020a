import Mathlib

/-! Entries under names.

A list of entries stands for what its names mean: the first entry of a name counts. So an entry that
is added behind matters only to a name that was free (`lookup_append_free`), and what is left
without the entries of one name means the same to every other (`lookup_filter`). -/
namespace ScriptCache

section Entries
variable {α β : Type} [DecidableEq α] {entries : List (α × β)} {name : α}

theorem lookup_append_free (hfree : entries.lookup name = none) (b : β) (other : α) :
    (entries ++ [(name, b)]).lookup other =
      if other = name then some b else entries.lookup other := by
  rw [List.lookup_append]
  by_cases hother : other = name
  · simp [hother, hfree]
  · have hlast : [(name, b)].lookup other = none := by
      simp [List.lookup_cons, beq_eq_false_iff_ne.mpr hother]
    rw [hlast, Option.or_none, if_neg hother]

theorem lookup_filter (entries : List (α × β)) (name other : α) :
    (entries.filter fun named => named.1 != name).lookup other =
      if other = name then none else entries.lookup other := by
  induction entries with
  | nil => simp
  | cons named entries ih =>
    obtain ⟨first, b⟩ := named
    by_cases hfirst : first = name
    · subst hfirst
      simp only [List.filter_cons, bne_self_eq_false, Bool.false_eq_true, if_false, ih]
      by_cases hother : other = first
      · simp [hother]
      · simp [hother, List.lookup_cons, beq_eq_false_iff_ne.mpr hother]
    · have hkeep : (first != name) = true := by simpa using hfirst
      simp only [List.filter_cons, hkeep, if_true, List.lookup_cons, ih]
      by_cases hother : other = first
      · simp [hother, hfirst]
      · simp only [beq_eq_false_iff_ne.mpr hother]

/-- Where no name occurs twice, looking a name up finds the entry under it. -/
theorem lookup_of_nodup (h : (entries.map Prod.fst).Nodup) {b : β} :
    entries.lookup name = some b ↔ (name, b) ∈ entries := by
  rw [List.lookup_eq_some_iff]
  constructor
  · rintro ⟨before, after, rfl, -⟩
    exact List.mem_append_right before List.mem_cons_self
  · intro hmem
    obtain ⟨before, after, rfl⟩ := List.append_of_mem hmem
    refine ⟨before, after, rfl, fun other hother => ?_⟩
    rw [List.map_append, List.map_cons, List.nodup_append] at h
    have hne := h.2.2 other.1 (List.mem_map_of_mem hother) name List.mem_cons_self
    exact bne_iff_ne.mpr hne.symm

end Entries

end ScriptCache
