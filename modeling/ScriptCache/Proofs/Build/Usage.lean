import Mathlib
import ScriptCache.Proofs.Build.Course

/-! What becomes of a driver as it is used.

A driver is made for some settings and then used: it is given resolvers, it builds on machines as
they then are, and its compiler is changed in between. Nothing of this changes the settings and the
store that it was made with, and it asks the resolvers that it was given, each kind in the order in
which they came (`used_resolvers`). -/
namespace ScriptCache

/-- A use of a driver. -/
inductive DriverUse (σ : Type) where
  | runtime (r : Resolver)
  | fallback (r : Resolver)
  | compiler (change : σ → σ)
  | build (m : Machine) (request : BuildRequest)

namespace DriverUse

variable {σ : Type}

def runtime? : DriverUse σ → Option Resolver
  | .runtime r => some r
  | _ => none

def fallback? : DriverUse σ → Option Resolver
  | .fallback r => some r
  | _ => none

end DriverUse

namespace Driver

variable [Wire.Memory] {σ : Type} {c : Compiler σ} {d : Driver σ}

/-- What one use makes of a driver. -/
def use (c : Compiler σ) (d : Driver σ) : DriverUse σ → Driver σ
  | .runtime r => d.withRuntimeResolver r
  | .fallback r => d.withFallbackResolver r
  | .compiler change => { d with compiler := change d.compiler }
  | .build m request => ((build c d request).run m).1.2

/-- What some uses make of a driver, one after another. -/
def used (c : Compiler σ) (d : Driver σ) (uses : List (DriverUse σ)) : Driver σ :=
  uses.foldl (use c) d

theorem use_store (c : Compiler σ) (d : Driver σ) (u : DriverUse σ) :
    (d.use c u).store = d.store := by
  cases u with
  | runtime r | fallback r | compiler change => rfl
  | build m request => exact (build_kin c d request m).store

theorem use_resolvers (c : Compiler σ) (d : Driver σ) (u : DriverUse σ) :
    (d.use c u).runtimeResolvers = d.runtimeResolvers.followedBy ⟨u.runtime?.toList⟩ ∧
      (d.use c u).fallbackResolvers = d.fallbackResolvers.followedBy ⟨u.fallback?.toList⟩ := by
  have hnone (chain : ResolverChain) : chain = chain.followedBy ⟨[]⟩ := by
    simp [ResolverChain.followedBy]
  cases u with
  | runtime r => exact ⟨rfl, hnone _⟩
  | fallback r => exact ⟨hnone _, rfl⟩
  | compiler change => exact ⟨hnone _, hnone _⟩
  | build m request =>
    have hkin := build_kin c d request m
    exact ⟨hkin.runtime.trans (hnone _), hkin.fallback.trans (hnone _)⟩

theorem used_store (c : Compiler σ) (d : Driver σ) (uses : List (DriverUse σ)) :
    (d.used c uses).store = d.store := by
  induction uses generalizing d with
  | nil => rfl
  | cons u uses ih =>
    show ((d.use c u).used c uses).store = d.store
    rw [ih, use_store]

/-- The resolvers that were given to a driver, in the order in which they were, come behind those
that it had. -/
theorem used_resolvers (c : Compiler σ) (d : Driver σ) (uses : List (DriverUse σ)) :
    (d.used c uses).runtimeResolvers.resolvers =
        d.runtimeResolvers.resolvers ++ uses.filterMap DriverUse.runtime? ∧
      (d.used c uses).fallbackResolvers.resolvers =
        d.fallbackResolvers.resolvers ++ uses.filterMap DriverUse.fallback? := by
  induction uses generalizing d with
  | nil => exact ⟨(List.append_nil _).symm, (List.append_nil _).symm⟩
  | cons u uses ih =>
    have hcons (kind : DriverUse σ → Option Resolver) :
        (kind u).toList ++ uses.filterMap kind = (u :: uses).filterMap kind := by
      cases h : kind u <;> simp [h]
    obtain ⟨hruntime, hfallback⟩ := use_resolvers c d u
    obtain ⟨hruntimes, hfallbacks⟩ := ih (d.use c u)
    rw [hruntime] at hruntimes
    rw [hfallback] at hfallbacks
    rw [← hcons, ← hcons, ← List.append_assoc, ← List.append_assoc]
    exact ⟨hruntimes, hfallbacks⟩

end Driver

end ScriptCache
