import Mathlib
import ScriptCache.Proofs.Build.Course
import ScriptCache.Proofs.Store.Ledger

/-! The calls that a driver makes of its compiler.

A recording compiler notes its calls and does what it would do anyway (`build_recording`). On its
notes a driver's memory of the last configuration is right after every build, however the builds
end (`Driver.InStep`), and a compilation finds the compiler as its own script and settings want it
(`compiles_as_configured`). -/
namespace ScriptCache

/-! ### Recording -/

/-- A call of a compiler, with how it ended. -/
inductive CompilerCall where
  | configure (config : CompilerConfig) (accepted : Bool)
  | compile (script : Script) (result : Except CompileError Bytes)
  deriving DecidableEq

variable {σ : Type}

/-- The same compiler, noting its calls, the latest first. -/
def Compiler.recording (c : Compiler σ) : Compiler (σ × List CompilerCall) where
  runtime s := c.runtime s.1
  configure config s :=
    let reply := c.configure config s.1
    reply.mapState (·, .configure config reply.result.isOk :: s.2)
  compile script s := do
    let reply ← c.compile script s.1
    return reply.mapState (·, .compile script reply.result :: s.2)

/-- The configuration that a compiler was given last, and whether it took it over. -/
def lastConfigured : List CompilerCall → Option (CompilerConfig × Bool)
  | [] => none
  | .configure config accepted :: _ => some (config, accepted)
  | .compile .. :: earlier => lastConfigured earlier

/-- Whether a call was made, after those in `sooner`, between two states of the notes. -/
def CompilerCall.Made (before after : List CompilerCall) (call : CompilerCall)
    (sooner : List CompilerCall) : Prop :=
  call :: sooner <:+ after ∧ before <:+ sooner

namespace Driver

/-- The calls that a recording compiler has noted. -/
abbrev calls (d : Driver (σ × List CompilerCall)) : List CompilerCall :=
  d.compiler.2

/-- The driver with its compiler's notes left out. -/
def forget (d : Driver (σ × List CompilerCall)) : Driver σ :=
  { d with compiler := d.compiler.1 }

/-- A driver after some builds, each on a machine of its own. -/
def after [Wire.Memory] (c : Compiler σ) (d : Driver σ)
    (builds : List (Machine × BuildRequest)) : Driver σ :=
  builds.foldl (fun d b => ((build c d b.2).run b.1).1.2) d

variable {c : Compiler σ} {d : Driver (σ × List CompilerCall)} {r : BuildRequest} {p : BuildPlan}
  {m : Machine}

theorem compile_recording (c : Compiler σ) (d : Driver (σ × List CompilerCall)) (p : BuildPlan)
    (m : Machine) :
    (compile c d.forget p).run m =
      ((((compile c.recording d p).run m).1.1, ((compile c.recording d p).run m).1.2.forget),
        ((compile c.recording d p).run m).2) := by
  have hconfigure : configure c d.forget p.config =
      ((configure c.recording d p.config).1, (configure c.recording d p.config).2.1.forget,
        (configure c.recording d p.config).2.2) := by
    unfold configure
    by_cases h : d.applied = some p.config
    · rw [if_pos h, if_pos (show d.forget.applied = some p.config from h)]
    · rw [if_neg h, if_neg (show d.forget.applied ≠ some p.config from h)]
      rfl
  simp only [compile, hconfigure, Routine.run_bind]
  cases (configure c.recording d p.config).1 with
  | error e => rfl
  | ok =>
    simp only [Routine.run_bind, Compiler.recording]
    rfl

/-- Recording changes nothing in what a build does. -/
theorem build_recording [Wire.Memory] (c : Compiler σ) (d : Driver (σ × List CompilerCall))
    (r : BuildRequest) (m : Machine) :
    (build c d.forget r).run m =
      ((((build c.recording d r).run m).1.1, ((build c.recording d r).run m).1.2.forget),
        ((build c.recording d r).run m).2) := by
  have hplan : plan c d.forget r = plan c.recording d r := rfl
  have hreuse (p : BuildPlan) : d.forget.reuse p = d.reuse p := rfl
  simp only [build, hplan]
  cases plan c.recording d r with
  | error flaw => rfl
  | ok p =>
    simp only [hreuse, Routine.run_bind]
    rcases (d.reuse p).run m with ⟨answer, m'⟩
    cases answer with
    | error e => rfl
    | ok answer =>
      cases answer with
      | some built => rfl
      | none =>
        simp only [buildAnew, Routine.run_bind, compile_recording]
        rcases (compile c.recording d p).run m' with ⟨⟨result, d'⟩, m''⟩
        cases result with
        | error e => rfl
        | ok object =>
          simp only [Routine.run_bind]
          rfl

/-! ### One compilation -/

/-- The calls that one compilation adds, by its result and by what the driver remembered. -/
inductive Called (d : Driver (σ × List CompilerCall)) (p : BuildPlan) :
    Except CompileError Bytes → Driver (σ × List CompilerCall) → Prop
  | compiled (result : Except CompileError Bytes) (d' : Driver (σ × List CompilerCall)) :
    d.applied = some p.config → d'.applied = some p.config →
    d'.calls = .compile p.script result :: d.calls → Called d p result d'
  | refused (e : CompileError) (d' : Driver (σ × List CompilerCall)) :
    d.applied ≠ some p.config → d'.applied = none →
    d'.calls = .configure p.config false :: d.calls → Called d p (.error e) d'
  | configured (result : Except CompileError Bytes) (d' : Driver (σ × List CompilerCall)) :
    d.applied ≠ some p.config → d'.applied = some p.config →
    d'.calls = .compile p.script result :: .configure p.config true :: d.calls →
    Called d p result d'

theorem configure_calls (c : Compiler σ) (d : Driver (σ × List CompilerCall))
    (config : CompilerConfig) :
    let reply := configure c.recording d config
    d.applied = some config ∧ reply = (.ok (), d, []) ∨
      d.applied ≠ some config ∧ reply.2.1.calls = .configure config reply.1.isOk :: d.calls ∧
        reply.2.1.applied = reply.1.toOption.map fun _ => config := by
  unfold configure
  by_cases h : d.applied = some config
  · rw [if_pos h]
    exact .inl ⟨h, rfl⟩
  · rw [if_neg h]
    refine .inr ⟨h, rfl, ?_⟩
    simp only [Compiler.recording, CompilerReply.mapState]
    cases (c.configure config d.compiler.1).result <;> rfl

theorem compile_calls (c : Compiler σ) (d : Driver (σ × List CompilerCall)) (p : BuildPlan)
    (m : Machine) :
    Called d p ((compile c.recording d p).run m).1.1 ((compile c.recording d p).run m).1.2 := by
  have hcalls := configure_calls c d p.config
  have hcourse := compilation c.recording d p m
  generalize (compile c.recording d p).run m = compiled at *
  cases hcourse with
  | refused e d' events m' hconfigured =>
    rw [hconfigured] at hcalls
    rcases hcalls with ⟨-, hsame⟩ | ⟨hother, hcalls, happlied⟩
    · cases hsame
    · exact .refused e d' hother happlied hcalls
  | answered d' events m' m'' reply left hconfigured _ hreply =>
    rw [hconfigured] at hcalls
    have hstate : reply.state.2 = .compile p.script reply.result :: d'.calls := by
      rw [Compiler.recording, Routine.run_bind] at hreply
      cases hreply
      rfl
    rcases hcalls with ⟨hsame, heq⟩ | ⟨hother, hcalls, happlied⟩
    · cases heq
      exact .compiled _ _ hsame hsame hstate
    · refine .configured _ _ hother happlied ?_
      rw [calls, hstate, hcalls]
      rfl

/-! ### What a driver remembers -/

/-- Whether a driver remembers the configuration that its compiler took over last, unless it
refused one since. -/
def InStep (d : Driver (σ × List CompilerCall)) : Prop :=
  ∀ config, d.applied = some config ↔ lastConfigured d.calls = some (config, true)

theorem InStep.called {d' : Driver (σ × List CompilerCall)} {result : Except CompileError Bytes}
    (hd : d.InStep) (h : Called d p result d') : d'.InStep := by
  intro config
  cases h with
  | compiled _ _ hbefore happlied hcalls =>
    rw [happlied, hcalls, ← hbefore]
    exact hd config
  | refused e _ _ happlied hcalls =>
    rw [happlied, hcalls]
    simp [lastConfigured]
  | configured _ _ _ happlied hcalls =>
    rw [happlied, hcalls]
    simp [lastConfigured]

/-! ### Whole builds -/

section

variable [Wire.Memory]

/-- The machine after a plan was looked up and compiled. -/
def compiledOn (c : Compiler σ) (d : Driver σ) (p : BuildPlan) (m : Machine) : Machine :=
  ((compile c d p).run ((d.reuse p).run m).2).2

/-- A build that came to compile, with the driver after it, and what became of its object. -/
structure Recompiled (c : Compiler (σ × List CompilerCall)) (d : Driver (σ × List CompilerCall))
    (r : BuildRequest) (m : Machine) (d' : Driver (σ × List CompilerCall)) (disk : Disk)
    (p : BuildPlan) (result : Except CompileError Bytes) : Prop where
  planned : plan c d r = .ok p
  missed : ((d.reuse p).run m).1 = .ok none
  called : Called d p result d'
  kept : ∀ object, result = .ok object →
    disk = ((p.keep d.store object).run (compiledOn c d p m)).2.disk

theorem build_calls (c : Compiler σ) (d : Driver (σ × List CompilerCall)) (r : BuildRequest)
    (m : Machine) :
    let built := (build c.recording d r).run m
    built.1.2 = d ∨ ∃ p result, Recompiled c.recording d r m built.1.2 built.2.disk p result := by
  have hcourse := course c.recording d r m
  generalize (build c.recording d r).run m = built at *
  cases hcourse with
  | refused | brokenOff | reused => exact .inl rfl
  | uncompiled p m' m'' e d' hplan hreuse hcompile =>
    have hcalled := compile_calls c d p m'
    rw [hcompile] at hcalled
    exact .inr ⟨p, .error e, hplan, by rw [hreuse], hcalled, nofun⟩
  | compiled p m' m'' object d' hplan hreuse hcompile =>
    have hcalled := compile_calls c d p m'
    have hkin := compile_kin c.recording d p m'
    rw [hcompile] at hcalled hkin
    refine .inr ⟨p, .ok object, hplan, by rw [hreuse], hcalled, ?_⟩
    rintro _ ⟨⟩
    rw [compiledOn, hreuse, hcompile, (finish_run d'.store p object m'').2.disk, hkin.store]

theorem InStep.after (hd : d.InStep) (c : Compiler σ) (builds : List (Machine × BuildRequest)) :
    (d.after c.recording builds).InStep := by
  induction builds generalizing d with
  | nil => exact hd
  | cons b builds ih =>
    have hnext : ((build c.recording d b.2).run b.1).1.2.InStep := by
      rcases build_calls c d b.2 b.1 with hsame | ⟨p, result, h⟩
      · rwa [hsame]
      · exact hd.called h.called
    exact ih hnext

theorem kin_after (c : Compiler σ) (d : Driver σ) (builds : List (Machine × BuildRequest)) :
    d.Kin (d.after c builds) := by
  induction builds generalizing d with
  | nil => exact .refl d
  | cons b builds ih => exact (build_kin c d b.2 b.1).trans (ih _)

end

theorem not_made (call : CompilerCall) (before sooner : List CompilerCall) :
    ¬ call.Made before before sooner := by
  rintro ⟨hcall, hsooner⟩
  have hshort := hcall.length_le
  have hlong := hsooner.length_le
  rw [List.length_cons] at hshort
  omega

/-- A call that was made is the latest one, or it was made before that. -/
theorem made_cons {call latest : CompilerCall} {before after sooner : List CompilerCall} :
    call.Made before (latest :: after) sooner →
      (call = latest ∧ sooner = after) ∨ call.Made before after sooner := by
  rintro ⟨hcall, hsooner⟩
  rcases List.suffix_cons_iff.mp hcall with heq | hcall
  · cases heq
    exact .inl ⟨rfl, rfl⟩
  · exact .inr ⟨hcall, hsooner⟩

theorem made_one {call latest : CompilerCall} {before sooner : List CompilerCall}
    (h : call.Made before (latest :: before) sooner) : call = latest ∧ sooner = before :=
  (made_cons h).resolve_right (not_made _ _ _)

/-- A script is compiled when the compiler took over its configuration last. -/
theorem Called.of_compile {d' : Driver (σ × List CompilerCall)} {script : Script}
    {sooner : List CompilerCall} {result result' : Except CompileError Bytes}
    (h : Called d p result d') (hd : d.InStep)
    (hmade : (CompilerCall.compile script result').Made d.calls d'.calls sooner) :
    script = p.script ∧ result' = result ∧ lastConfigured sooner = some (p.config, true) := by
  cases h with
  | compiled _ _ hsame _ hcalls =>
    rw [hcalls] at hmade
    obtain ⟨heq, rfl⟩ := made_one hmade
    cases heq
    exact ⟨rfl, rfl, (hd _).mp hsame⟩
  | refused e _ _ _ hcalls =>
    rw [hcalls] at hmade
    cases (made_one hmade).1
  | configured _ _ _ _ hcalls =>
    rw [hcalls] at hmade
    rcases made_cons hmade with ⟨heq, rfl⟩ | hmade
    · cases heq
      exact ⟨rfl, rfl, rfl⟩
    · cases (made_one hmade).1

/-- A compiler is configured when it did not take over this configuration last. -/
theorem Called.of_configure {d' : Driver (σ × List CompilerCall)} {config : CompilerConfig}
    {accepted : Bool} {sooner : List CompilerCall} {result : Except CompileError Bytes}
    (h : Called d p result d') (hd : d.InStep)
    (hmade : (CompilerCall.configure config accepted).Made d.calls d'.calls sooner) :
    config = p.config ∧ lastConfigured sooner ≠ some (config, true) := by
  cases h with
  | compiled _ _ _ _ hcalls =>
    rw [hcalls] at hmade
    cases (made_one hmade).1
  | refused e _ hother _ hcalls =>
    rw [hcalls] at hmade
    obtain ⟨heq, rfl⟩ := made_one hmade
    cases heq
    exact ⟨rfl, fun hlast => hother ((hd _).mpr hlast)⟩
  | configured _ _ hother _ hcalls =>
    rw [hcalls] at hmade
    rcases made_cons hmade with ⟨heq, -⟩ | hmade
    · cases heq
    · obtain ⟨heq, rfl⟩ := made_one hmade
      cases heq
      exact ⟨rfl, fun hlast => hother ((hd _).mpr hlast)⟩

/-- After any builds of a driver whose compiler had no calls before, the next build compiles its
script when the compiler took over the configuration of that script last, and keeps the object
with that configuration's signature; and it configures the compiler only when it comes to compile
and the compiler did not take over this configuration last. -/
theorem compiles_as_configured [Wire.Memory] (c : Compiler σ)
    (start : Driver (σ × List CompilerCall))
    (happlied : start.applied = none) (hcalls : start.calls = [])
    (earlier : List (Machine × BuildRequest)) (m : Machine) (r : BuildRequest) :
    let d := start.after c.recording earlier
    let built := (build c.recording d r).run m
    (∀ script result sooner,
      (CompilerCall.compile script result).Made d.calls built.1.2.calls sooner →
        ∃ p wrapper, plan c.recording d r = .ok p ∧ Wrapper.parse r.bitcode = .ok wrapper ∧
          let config := CompilerConfig.resolve wrapper start.settings.compiler
          script = p.script ∧ lastConfigured sooner = some (config, true) ∧
            ∀ object, result = .ok object → built.2.disk = ((d.store.insert p.slot object
              (.ofArtifact p.dependencies config.signature object)).run
                (compiledOn c.recording d p m)).2.disk) ∧
      ∀ config accepted sooner,
        (CompilerCall.configure config accepted).Made d.calls built.1.2.calls sooner →
          ∃ p wrapper, plan c.recording d r = .ok p ∧ Wrapper.parse r.bitcode = .ok wrapper ∧
            ((d.reuse p).run m).1 = .ok none ∧
            config = CompilerConfig.resolve wrapper start.settings.compiler ∧
            (lastConfigured sooner = none ∨ (∃ last, lastConfigured sooner = some (last, false)) ∨
              ∃ last, lastConfigured sooner = some (last, true) ∧ last ≠ config) := by
  intro d built
  have hstart : start.InStep := by
    intro config
    rw [happlied, hcalls]
    simp [lastConfigured]
  have hd : d.InStep := hstart.after c earlier
  have hbuilt := build_calls c d r m
  rw [← (kin_after c.recording start earlier).settings]
  refine ⟨fun script result sooner hmade => ?_, fun config accepted sooner hmade => ?_⟩
  · rcases hbuilt with hsame | ⟨p, result', h⟩
    · rw [show built.1.2 = d from hsame] at hmade
      exact absurd hmade (not_made _ _ _)
    · obtain ⟨rfl, rfl, hlast⟩ := h.called.of_compile hd hmade
      have hplanned := planned h.planned
      have hsignature : p.signature =
          (CompilerConfig.resolve p.wrapper d.settings.compiler).signature :=
        congrArg CompilerConfig.signature hplanned.config
      refine ⟨p, p.wrapper, h.planned, hplanned.wrapper, rfl, ?_, fun object hobject => ?_⟩
      · rw [hlast, hplanned.config]
      · have hkept := h.kept object hobject
        rwa [BuildPlan.keep, hsignature] at hkept
  · rcases hbuilt with hsame | ⟨p, result', h⟩
    · rw [show built.1.2 = d from hsame] at hmade
      exact absurd hmade (not_made _ _ _)
    · obtain ⟨rfl, hlast⟩ := h.called.of_configure hd hmade
      have hplanned := planned h.planned
      refine ⟨p, p.wrapper, h.planned, hplanned.wrapper, h.missed, hplanned.config, ?_⟩
      rcases hlatest : lastConfigured sooner with _ | ⟨last, _ | _⟩
      · exact .inl rfl
      · exact .inr (.inl ⟨last, rfl⟩)
      · refine .inr (.inr ⟨last, rfl, fun heq => hlast ?_⟩)
        rw [hlatest, heq]

section

attribute [local instance] Wire.Memory.addressSpace

/-- Refuses its first configuration and takes every one after that. -/
def reluctant : Compiler Bool where
  runtime _ := []
  configure _ willing :=
    { result := if willing then .ok () else .error (.config "not yet"), state := true }
  compile script willing := return { result := .ok script.bitcode, state := willing }

/-- A script whose configuration was refused is compiled after it was taken over. -/
theorem compiles_after_refusal :
    let request : BuildRequest := ⟨"c", "a", Utf8.encode "BC"⟩
    let config : CompilerConfig := .resolve (.bare request.bitcode) {}
    let script : Script := ⟨"a", request.bitcode, .bare request.bitcode⟩
    let sooner := [CompilerCall.configure config true, .configure config false]
    let start : Driver (Bool × List CompilerCall) :=
      { settings := {}, store := {}, compiler := (false, []) }
    let d := start.after reluctant.recording [(.blank, request)]
    start.applied = none ∧ start.calls = [] ∧
      (CompilerCall.compile script (.ok request.bitcode)).Made d.calls
        ((build reluctant.recording d request).run .blank).1.2.calls sooner ∧
      lastConfigured sooner = some (config, true) := by
  intro request config script sooner start d
  have hafter : d.calls = [.configure config false] := by decide +kernel
  have hcalls : ((build reluctant.recording d request).run .blank).1.2.calls =
      .compile script (.ok request.bitcode) :: sooner := by decide +kernel
  have hmade : (CompilerCall.compile script (.ok request.bitcode)).Made d.calls
      ((build reluctant.recording d request).run .blank).1.2.calls sooner := by
    rw [hafter, hcalls]
    exact ⟨List.suffix_refl _, [.configure config true], rfl⟩
  obtain ⟨hcompile, -⟩ := compiles_as_configured reluctant start rfl rfl
    [(.blank, request)] .blank request
  obtain ⟨p, wrapper, -, hwrapper, -, hlast, -⟩ := hcompile _ _ _ hmade
  have hbare : Wrapper.parse request.bitcode = .ok (.bare request.bitcode) := by decide +kernel
  rw [hbare] at hwrapper
  cases hwrapper
  exact ⟨rfl, rfl, hmade, hlast⟩

end

end Driver

end ScriptCache
