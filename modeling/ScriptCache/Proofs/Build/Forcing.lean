import Mathlib
import ScriptCache.Proofs.Build.Usage
import ScriptCache.Proofs.Config.Overlays
import ScriptCache.Proofs.Store.Available

/-! Environments that keep a driver from its cache.

The environment can change how scripts are compiled under the objects that are in the cache already.
So it can only tighten settings, and settings that it gave a precision force recompilation from then
on: whatever else is laid over them, a driver made for them never answers from a cache
(`overlays_only_tighten`). -/
namespace ScriptCache.Driver

variable {σ : Type} {c : Compiler σ} {d : Driver σ} {r : BuildRequest} {m : Machine}

section

variable [Wire.Memory]

/-- A driver whose store is passed by compiles what it answers. -/
theorem not_cacheHit_of_force (hforce : d.store.force = true) {built : Built}
    (h : ((build c d r).run m).1.1 = .ok built) : built.origin ≠ .cacheHit := by
  obtain ⟨p, path, object, -, hsupplied, -⟩ := supplied h
  intro hhit
  rw [hhit] at hsupplied
  cases hsupplied with
  | cached artifact hlooked =>
    rw [BuildPlan.seek, lookup_forced hforce] at hlooked
    cases hlooked

/-- Environments that are laid one after another over settings, refused or not, only tighten them,
and settings that go together still do. Each that comes next tightens them again: it sets a precision
only if it is not refused, and then recompilation is forced; if it is refused, it can have done no
more than to force recompilation; and laid once more, it does the same. After one that asks for a
precision and is not refused, no driver that is made for the settings answers a request from the
cache, whichever environments are laid over them before it is made, however it is used and whatever
is in the cache. -/
theorem overlays_only_tighten (envs : List Environment) (s : Settings) :
    let t := Environment.overlaid envs s
    t.Tightens s ∧ t.validate = s.validate ∧
      (∀ env : Environment,
        let o := env.apply t
        o.settings.Tightens t ∧
          (o.settings.compiler.precision ≠ t.compiler.precision →
            o.result = .ok () ∧ o.settings.cache.forceRecompile = true) ∧
          (∀ e, o.result = .error e →
            o.settings = t ∨ o.settings = { t with cache.forceRecompile := true }) ∧
          env.apply o.settings = o) ∧
      ∀ (env : Environment) (value : String), env Environment.precisionName = some value →
        value.isEmpty = false → (env.apply t).result = .ok () →
        ∀ (later : List Environment) (compiler : σ) (made : Driver σ),
          Driver.of (Environment.overlaid later (env.apply t).settings) compiler = .ok made →
          ∀ (c : Compiler σ) (uses : List (DriverUse σ)) (m : Machine) (r : BuildRequest)
            (built : Built), ((build c (made.used c uses) r).run m).1.1 = .ok built →
              built.origin ≠ .cacheHit := by
  intro t
  have htight := Environment.overlaid_tightens envs s
  refine ⟨htight, htight.validate_eq, ?each, ?cache⟩
  case each =>
    intro env
    exact ⟨env.apply_tightens t, Environment.of_precision_ne,
      fun _ => Environment.of_apply_eq_error, env.apply_apply t⟩
  case cache =>
    intro env value hvalue hasked hok later compiler made hmade c uses m r built hbuilt
    have hforced := (Environment.overlaid_tightens later (env.apply t).settings).forced
      (Environment.forced_of_asked hvalue hasked hok)
    obtain ⟨-, hmade⟩ := of_eq_ok.mp hmade
    have hforce : (made.used c uses).store.force = true := by
      rw [used_store, hmade]
      exact hforced
    exact not_cacheHit_of_force hforce hbuilt

end

section

attribute [local instance] Wire.Memory.addressSpace

/-- An object is in the cache that was compiled with the precision that an environment asks for; a
driver with the same settings otherwise finds it. After the environment, and one that is refused, it
is compiled again. -/
theorem overlays_pass_a_hit_by :
    let c := Scripted.compiler
    let compiler : Scripted := ⟨{}, [], []⟩
    let asking : Environment := fun name =>
      if name = Environment.precisionName then some " Relaxed" else none
    let refused : Environment := fun name =>
      if name = Environment.precisionName then some " " else none
    let request : BuildRequest := ⟨"c", "a", Utf8.encode "BC"⟩
    let found : Settings := { compiler := { precision := some .relaxed } }
    ∃ plain made, Driver.of found compiler = .ok plain ∧
      (asking.apply {}).result = .ok () ∧ (refused.apply {}).result ≠ .ok () ∧
      Driver.of (Environment.overlaid [refused] (asking.apply {}).settings) compiler = .ok made ∧
      made.settings.compiler = found.compiler ∧
      let m := ((build c plain request).run .blank).2
      (((build c plain request).run m).1.1.toOption.map Built.origin = some .cacheHit) ∧
      ∃ built, ((build c made request).run m).1.1 = .ok built ∧ built.origin ≠ .cacheHit := by
  intro c compiler asking refused request found
  let plain : Driver Scripted :=
    { settings := found, store := ⟨found.lock.policy, false⟩, compiler }
  let made : Driver Scripted :=
    { settings := { found with cache := ⟨true⟩ }, store := ⟨found.lock.policy, true⟩, compiler }
  have hok : (asking.apply {}).result = .ok () := by decide +kernel
  have hrefused : (refused.apply {}).result ≠ .ok () := by decide +kernel
  have hlaid : Environment.overlaid [refused] (asking.apply {}).settings = made.settings := by
    decide +kernel
  have hmade : Driver.of (Environment.overlaid [refused] (asking.apply {}).settings) compiler =
      .ok made := by
    rw [hlaid]
    rfl
  refine ⟨plain, made, rfl, hok, hrefused, hmade, rfl, ?_⟩
  intro m
  have hhit : ((build c plain request).run m).1.1.toOption.map Built.origin = some .cacheHit := by
    decide +kernel
  have hbuilds : ((build c made request).run m).1.1.toOption.isSome = true := by decide +kernel
  obtain ⟨built, hbuilt⟩ := Option.isSome_iff_exists.mp hbuilds
  have hbuilt := ok_of_toOption hbuilt
  obtain ⟨-, -, -, hpassed⟩ := @overlays_only_tighten Scripted _ [] {}
  exact ⟨hhit, built, hbuilt, hpassed asking " Relaxed" rfl (by decide +kernel) hok [refused]
    compiler made hmade c [] m request built hbuilt⟩

end

end ScriptCache.Driver
