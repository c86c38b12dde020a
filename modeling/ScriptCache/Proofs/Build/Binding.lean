import Mathlib
import ScriptCache.Compiler.Scripted
import ScriptCache.Proofs.Build.Usage
import ScriptCache.Proofs.Object.Linking
import ScriptCache.Proofs.Object.Precedence
import ScriptCache.Proofs.Store.Ledger

/-! What the imports of a build are bound to.

A build loads one object, found in the cache or compiled (`Supplied`), and it loads either through
the same resolvers: the runtime resolvers that the driver was given, and behind them the fallbacks,
however the two kinds were mixed when they were given. So an import is bound to what the first
runtime resolver that knows it says, and to a fallback's answer only where no runtime resolver knows
it (`imports_bound_in_order`). -/
namespace ScriptCache

theorem Executable.unresolved_unknown {bytes : Bytes} {origin name : String}
    {resolvers : ResolverChain}
    (h : (loadImage bytes origin resolvers).1 = .error (.unresolved name)) :
    resolvers.resolve name = none := by
  unfold loadImage at h
  split at h
  · cases h
  · cases ObjectImage.link_eq_error.mp h with
    | imported before _ after _ _ _ hunknown => exact hunknown

namespace Driver

variable {σ : Type} {c : Compiler σ} {d : Driver σ} {r : BuildRequest} {p : BuildPlan}
  {m : Machine}

theorem answerOf_error {outcome : LookupOutcome} {e : BuildError}
    (h : answerOf p outcome = .error e) : e = .brokenOff := by
  cases outcome with
  | brokenOff =>
    cases h
    rfl
  | hit | miss => cases h

section

variable [Wire.Memory]

/-- A build that ends for an import is one whose resolvers do not know it. -/
theorem unresolved_of_build {path name : String}
    (h : ((build c d r).run m).1.1 = .error (.load path (.unresolved name))) :
    ∃ p, plan c d r = .ok p ∧ p.resolvers.resolve name = none := by
  have hcourse := course c d r m
  generalize (build c d r).run m = outcome at *
  cases hcourse with
  | refused | reused | uncompiled => cases h
  | brokenOff p m' e hplan hreuse =>
    cases h
    have hanswer := (reuse_run d p m).1
    rw [hreuse] at hanswer
    cases answerOf_error hanswer.symm
  | compiled p m' m'' object d' hplan hreuse hcompile =>
    rw [(finish_run d'.store p object m'').1] at h
    unfold resultOf at h
    split at h
    · cases h
    · rename_i e hload
      cases h
      exact ⟨p, hplan, Executable.unresolved_unknown hload⟩

/-- What the resolvers of a plan make of a symbol, in terms of those that the driver was given. -/
theorem resolve_planned {settings : Settings} {compiler : σ} {made : Driver σ}
    (hmade : Driver.of settings compiler = .ok made) (c : Compiler σ) (uses : List (DriverUse σ))
    (hplan : plan c (made.used c uses) r = .ok p) (symbol : String) :
    let runtimes := uses.filterMap DriverUse.runtime?
    let fallbacks := uses.filterMap DriverUse.fallback?
    (∀ answer, p.resolvers.resolve symbol = some answer ↔
        FirstAnswer runtimes symbol answer ∨
          Unknown runtimes symbol ∧ FirstAnswer fallbacks symbol answer) ∧
      (p.resolvers.resolve symbol = none ↔ Unknown runtimes symbol ∧ Unknown fallbacks symbol) := by
  obtain ⟨-, hfresh⟩ := of_eq_ok.mp hmade
  have hruntime : made.runtimeResolvers.resolvers = [] := by rw [hfresh]
  have hfallback : made.fallbackResolvers.resolvers = [] := by rw [hfresh]
  obtain ⟨hruntimes, hfallbacks⟩ := used_resolvers c made uses
  rw [hruntime, List.nil_append] at hruntimes
  rw [hfallback, List.nil_append] at hfallbacks
  rw [(planned hplan).resolvers]
  intro runtimes fallbacks
  constructor
  · intro answer
    rw [ResolverChain.resolve_followedBy_eq_some, hruntimes, hfallbacks]
  · rw [ResolverChain.resolve_followedBy_eq_none, hruntimes, hfallbacks]

/-- However a driver was used before, whatever is in the cache and whether its object is found there
or compiled: a build that succeeds binds each import of its object to the answer of the first runtime
resolver that knows it, in the order in which they were given to the driver, and where none does, to
that of the first fallback; a build fails for an import, as loading any object does, only if no
resolver of either kind knows it. A table answers with the last address that was inserted for a
symbol, chains may be joined in any grouping, and a joined chain has the answer of the first, source
and all, or else that of the second. -/
theorem imports_bound_in_order {settings : Settings} {compiler : σ} {made : Driver σ}
    (hmade : Driver.of settings compiler = .ok made) (c : Compiler σ) (uses : List (DriverUse σ)) :
    let d := made.used c uses
    let runtimes := uses.filterMap DriverUse.runtime?
    let fallbacks := uses.filterMap DriverUse.fallback?
    (∀ m r built, ((build c d r).run m).1.1 = .ok built →
        ∃ p path object image, plan c d r = .ok p ∧ Supplied c d p m built.origin path object ∧
          ObjectImage.decode object = .ok image ∧ ∀ name ∈ image.imports, ∃ answer,
            built.executable.import? name = some answer.1 ∧
              (FirstAnswer runtimes name answer ∨
                Unknown runtimes name ∧ FirstAnswer fallbacks name answer)) ∧
      (∀ m r path name, ((build c d r).run m).1.1 = .error (.load path (.unresolved name)) →
        Unknown runtimes name ∧ Unknown fallbacks name) ∧
      (∀ r p bytes origin name, plan c d r = .ok p →
        (Executable.loadImage bytes origin p.resolvers).1 = .error (.unresolved name) →
        Unknown runtimes name ∧ Unknown fallbacks name) ∧
      (∀ name inserted symbol address,
        (SymbolTable.ofList name inserted).resolver.resolve symbol = some address ↔
          ∃ before after, inserted = before ++ (symbol, address) :: after ∧
            ∀ later ∈ after, later.1 ≠ symbol) ∧
      (∀ first second third : ResolverChain,
        (first.followedBy second).followedBy third = first.followedBy (second.followedBy third)) ∧
      ∀ (first second : ResolverChain) (symbol : String),
        (first.followedBy second).resolve symbol =
          (first.resolve symbol).or (second.resolve symbol) := by
  intro d runtimes fallbacks
  refine ⟨fun m r built hbuilt => ?_, fun m r path name hfailed => ?_,
    fun r p bytes origin name hplan hload => ?_, fun _ _ _ _ => SymbolTable.resolve_ofList,
    ResolverChain.followedBy_assoc, ResolverChain.resolve_followedBy⟩
  · obtain ⟨p, path, object, hplan, hsupplied, hload⟩ := supplied hbuilt
    obtain ⟨image, himage, hlink⟩ := Executable.loadImage_eq_ok.mp hload
    refine ⟨p, path, object, image, hplan, hsupplied, himage, fun name hname => ?_⟩
    have hlinkable : image.Linkable p.resolvers :=
      (ObjectImage.linkable_iff path).mpr ⟨built.executable, hlink⟩
    obtain ⟨answer, hanswer⟩ := hlinkable.known name hname
    refine ⟨answer, ?_, ((resolve_planned hmade c uses hplan name).1 answer).mp hanswer⟩
    rw [(ObjectImage.linkedTo_of_link hlink).bound, if_pos hname, hanswer]
    rfl
  · obtain ⟨p, hplan, hunknown⟩ := unresolved_of_build hfailed
    exact (resolve_planned hmade c uses hplan name).2.mp hunknown
  · exact (resolve_planned hmade c uses hplan name).2.mp (Executable.unresolved_unknown hload)

end

section

attribute [local instance] Wire.Memory.addressSpace

/-- A fallback is given first and the object is in the cache from a build with nothing else; two
runtime resolvers that come later answer all the same before it, the first of them with its later
address. An import that neither kind knows fails. -/
theorem imports_bound_across_kinds :
    let c := Scripted.compiler
    let core := SymbolTable.ofList "core" [("f", 1), ("f", 2)]
    let extra := SymbolTable.ofList "extra" [("f", 3)]
    let late := SymbolTable.ofList "late" [("f", 4), ("g", 5)]
    let request : BuildRequest := ⟨"c", "a", Utf8.encode "BC"⟩
    let uses : List (DriverUse Scripted) := [.fallback late.resolver, .build .blank request,
      .runtime core.resolver, .runtime extra.resolver]
    let another : DriverUse Scripted := .compiler fun s => { s with answers := { imports := ["h"] } }
    let runtimes := [core.resolver, extra.resolver]
    ∃ made, Driver.of {} (⟨{ imports := ["f", "g"] }, [], []⟩ : Scripted) = .ok made ∧
      let m := ((build c (made.used c [.fallback late.resolver]) request).run .blank).2
      (∃ built, ((build c (made.used c uses) request).run m).1.1 = .ok built ∧
        built.origin = .cacheHit ∧ built.executable.imports = [("f", 2), ("g", 5)] ∧
        ∃ p path object image, plan c (made.used c uses) request = .ok p ∧
          Supplied c (made.used c uses) p m .cacheHit path object ∧
          ObjectImage.decode object = .ok image ∧ ∀ name ∈ image.imports, ∃ answer,
            built.executable.import? name = some answer.1 ∧
              (FirstAnswer runtimes name answer ∨
                Unknown runtimes name ∧ FirstAnswer [late.resolver] name answer)) ∧
      ((build c (made.used c (uses ++ [another])) ⟨"c", "b", [7]⟩).run m).1.1 =
        .error (.load "c/b.o" (.unresolved "h")) ∧
      Unknown runtimes "h" ∧ Unknown [late.resolver] "h" := by
  intro c core extra late request uses another runtimes
  let made : Driver Scripted :=
    { settings := {}
      store := ⟨({} : Settings).lock.policy, false⟩
      compiler := ⟨{ imports := ["f", "g"] }, [], []⟩ }
  have hmade : Driver.of {} (⟨{ imports := ["f", "g"] }, [], []⟩ : Scripted) = .ok made := rfl
  refine ⟨made, hmade, ?_⟩
  intro m
  have hhit : (((build c (used c made uses) request).run m).1.1.toOption).map
      (fun b => (b.origin, b.executable.imports)) = some (.cacheHit, [("f", 2), ("g", 5)]) := by
    decide +kernel
  have hfailed : ((build c (used c made (uses ++ [another])) ⟨"c", "b", [7]⟩).run m).1.1 =
      .error (.load "c/b.o" (.unresolved "h")) := by
    decide +kernel
  obtain ⟨hbound, -⟩ := imports_bound_in_order hmade c uses
  obtain ⟨-, hunknown, -⟩ := imports_bound_in_order hmade c (uses ++ [another])
  obtain ⟨built, hbuilt, hsame⟩ := Option.map_eq_some_iff.mp hhit
  obtain ⟨horigin, himports⟩ := Prod.mk.inj hsame
  have hok := ok_of_toOption hbuilt
  have hobject := hbound m request built hok
  rw [horigin] at hobject
  exact ⟨⟨built, hok, horigin, himports, hobject⟩, hfailed, hunknown m _ _ _ hfailed⟩

end

end Driver

end ScriptCache
