import Mathlib
import ScriptCache.Object.Resolver
import ScriptCache.Proofs.Entries

/-! Who answers for a symbol.

Resolvers are asked in order. A chain has the answer of the first that knows the symbol
(`FirstAnswer`), under this resolver's name, and has no answer exactly if the symbol is `Unknown` to
all of them. Of two joined chains the second answers only for what is unknown to the first
(`resolve_followedBy_eq_some`). A table that was filled by insertions answers with the last of them
(`resolve_ofList`). -/
namespace ScriptCache

/-- Whether none of some resolvers knows a symbol. -/
def Unknown (resolvers : List Resolver) (symbol : String) : Prop :=
  ∀ r ∈ resolvers, r.resolve symbol = none

/-- Whether an address and the name of its source are what the first of some resolvers that knows a
symbol says of it. -/
def FirstAnswer (resolvers : List Resolver) (symbol : String) (answer : UInt64 × String) : Prop :=
  ∃ before r after, resolvers = before ++ r :: after ∧ Unknown before symbol ∧
    r.resolve symbol = some answer.1 ∧ r.name = answer.2

namespace ResolverChain

variable {chain fallback : ResolverChain} {symbol : String} {answer : UInt64 × String}

theorem resolve_eq_none : chain.resolve symbol = none ↔ Unknown chain.resolvers symbol := by
  simp [resolve, Unknown]

theorem resolve_eq_some :
    chain.resolve symbol = some answer ↔ FirstAnswer chain.resolvers symbol answer := by
  obtain ⟨address, source⟩ := answer
  unfold resolve FirstAnswer Unknown
  rw [List.findSome?_eq_some_iff]
  simp only [Option.map_eq_some_iff, Option.map_eq_none_iff, Prod.mk.injEq]
  constructor
  · intro h
    obtain ⟨before, r, after, hsplit, ⟨_, hknown, rfl, hname⟩, hbefore⟩ := h
    exact ⟨before, r, after, hsplit, hbefore, hknown, hname⟩
  · intro h
    obtain ⟨before, r, after, hsplit, hbefore, hknown, hname⟩ := h
    exact ⟨before, r, after, hsplit, ⟨address, hknown, rfl, hname⟩, hbefore⟩

theorem followedBy_assoc (first second third : ResolverChain) :
    (first.followedBy second).followedBy third = first.followedBy (second.followedBy third) := by
  simp [followedBy, List.append_assoc]

theorem resolve_followedBy_eq_some :
    (chain.followedBy fallback).resolve symbol = some answer ↔
      FirstAnswer chain.resolvers symbol answer ∨
        Unknown chain.resolvers symbol ∧ FirstAnswer fallback.resolvers symbol answer := by
  rw [resolve_followedBy, Option.or_eq_some_iff, resolve_eq_some, resolve_eq_none, resolve_eq_some]

theorem resolve_followedBy_eq_none :
    (chain.followedBy fallback).resolve symbol = none ↔
      Unknown chain.resolvers symbol ∧ Unknown fallback.resolvers symbol := by
  rw [resolve_followedBy, Option.or_eq_none_iff, resolve_eq_none, resolve_eq_none]

end ResolverChain

namespace SymbolTable

/-- An insertion changes the answer for its own symbol only. -/
theorem resolve_insert (table : SymbolTable) (symbol : String) (address : UInt64) (other : String) :
    (table.insert symbol address).resolver.resolve other =
      if other = symbol then some address else table.resolver.resolve other := by
  show ((symbol, address) :: table.symbols.filter fun known => known.1 != symbol).lookup other = _
  by_cases hother : other = symbol
  · simp [hother]
  · rw [List.lookup_cons, beq_false_of_ne hother, lookup_filter, if_neg hother, if_neg hother]
    rfl

theorem ofList_append (name : String) (inserted : List (String × UInt64)) (last : String × UInt64) :
    ofList name (inserted ++ [last]) = (ofList name inserted).insert last.1 last.2 := by
  unfold ofList
  rw [List.foldl_append]
  rfl

/-- A table answers as its insertions say, read from the last to the first. -/
theorem resolve_ofList_eq (name : String) (inserted : List (String × UInt64)) (symbol : String) :
    (ofList name inserted).resolver.resolve symbol = inserted.reverse.lookup symbol := by
  induction inserted using List.reverseRecOn with
  | nil => rfl
  | append_singleton inserted last ih =>
    rw [ofList_append, resolve_insert, ih, List.reverse_concat, List.lookup_cons]
    by_cases hlast : symbol = last.1
    · simp [hlast]
    · simp [hlast, beq_false_of_ne hlast]

/-- A table has the last address that was inserted for a symbol. -/
theorem resolve_ofList {name : String} {inserted : List (String × UInt64)} {symbol : String}
    {address : UInt64} :
    (ofList name inserted).resolver.resolve symbol = some address ↔
      ∃ before after, inserted = before ++ (symbol, address) :: after ∧
        ∀ later ∈ after, later.1 ≠ symbol := by
  rw [resolve_ofList_eq, List.lookup_eq_some_iff]
  constructor
  · intro h
    obtain ⟨after, before, hsplit, hafter⟩ := h
    refine ⟨before.reverse, after.reverse, ?_, fun later hlater => ?_⟩
    · rw [← List.reverse_reverse inserted, hsplit]
      simp
    · exact (bne_iff_ne.mp (hafter later (List.mem_reverse.mp hlater))).symm
  · intro h
    obtain ⟨before, after, rfl, hafter⟩ := h
    refine ⟨after.reverse, before.reverse, by simp, fun later hlater => ?_⟩
    exact bne_iff_ne.mpr (hafter later (List.mem_reverse.mp hlater)).symm

end SymbolTable

end ScriptCache
