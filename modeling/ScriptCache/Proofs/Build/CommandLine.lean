import Mathlib
import ScriptCache.Compiler.External
import ScriptCache.Proofs.Build.Calls
import ScriptCache.Proofs.Build.Resilience
import ScriptCache.Proofs.Store.Launches

/-! The command lines that builds start programs with.

A driver whose compiler is a program keeps it *tuned*: as far as the driver remembers a
configuration, the program has it, and nothing else about the program changes. A level is checked
where it comes from, in a script's header or in the driver's settings, so the program accepts
every configuration that a build comes to. So no build fails for a configuration, and each program that
is started has the arguments of the configuration whose signature goes into the cache beside the
object (`commands_as_configured`). -/
namespace ScriptCache

/-! ### Levels -/

theorem Wrapper.level_of_parse {buffer : Bytes} {w : Wrapper} (h : parse buffer = .ok w) :
    w.level.toNat ≤ maxLevel := by
  unfold parse at h
  split at h
  · split at h
    · cases h
    · unfold parseHeader at h
      dsimp only at h
      split at h
      · cases h
      split at h
      · cases h
      split at h
      · cases h
      · cases h
      split at h
      · cases h
      · rename_i hlevel
        cases h
        have hle := Nat.le_of_not_lt hlevel
        show (UInt8.ofNat _).toNat ≤ maxLevel
        rw [UInt8.toNat_ofNat']
        exact Nat.le_trans (Nat.mod_le _ _) hle
  · cases h
    show defaultLevel.toNat ≤ maxLevel
    decide

theorem Settings.level_of_validate {s : Settings} {level : UInt8} (h : s.validate = .ok ())
    (hlevel : s.compiler.optimizationLevel = some level) : level.toNat ≤ Wrapper.maxLevel := by
  unfold validate at h
  rw [hlevel] at h
  split at h
  · cases h
  split at h
  · cases h
  dsimp only at h
  split at h
  · cases h
  · rename_i hle
    exact UInt8.le_iff_toNat_le.mp (UInt8.not_lt.mp hle)

/-- A level that a build comes to was checked where it comes from. -/
theorem CompilerConfig.level_resolve {s : Settings} {buffer : Bytes} {w : Wrapper}
    (hs : s.validate = .ok ()) (hw : Wrapper.parse buffer = .ok w) :
    (resolve w s.compiler).level.toNat ≤ Wrapper.maxLevel := by
  cases hlevel : s.compiler.optimizationLevel with
  | none =>
    have hresolved : (resolve w s.compiler).level = w.level := by simp [resolve, hlevel]
    rw [hresolved]
    exact Wrapper.level_of_parse hw
  | some level =>
    have hresolved : (resolve w s.compiler).level = level := by simp [resolve, hlevel]
    rw [hresolved]
    exact Settings.level_of_validate hs hlevel

/-! ### The program -/

/-- Whether an error has nothing to do with how the compiler is configured. -/
def CompileError.Unrelated (e : CompileError) : Prop :=
  (∀ reason, e ≠ .config reason) ∧ e ≠ .notConfigured

/-- A program with a configuration is started once, with the arguments of the configuration. -/
theorem External.compile_configured {e : External} {config : CompilerConfig}
    (h : e.config = some config) (script : Script) (m : Machine) :
    let compiled := ((External.compile script e).run m).1
    compiled.state = e ∧ (∀ flaw, compiled.result = .error flaw → flaw.Unrelated) ∧
      (External.compile script e).launches m =
        [.launch e.program (e.commandLine config) script.bitcode] := by
  simp only [External.compile, h, Routine.run_bind, Routine.launches_bind]
  cases ((Routine.perform (.launch e.program (e.commandLine config) script.bitcode)).run m).1 with
  | error source =>
    refine ⟨rfl, ?_, rfl⟩
    rintro _ ⟨⟩
    exact ⟨nofun, nofun⟩
  | ok f =>
    refine ⟨rfl, fun flaw hflaw => ?_, rfl⟩
    have houtcome : (outcome script.name f).1 = .error flaw := hflaw
    unfold outcome at houtcome
    split at houtcome
    · cases houtcome
      exact ⟨nofun, nofun⟩
    split at houtcome
    · cases houtcome
      exact ⟨nofun, nofun⟩
    · cases houtcome

namespace Driver

/-! ### Tuned drivers -/

/-- Whether the compiler is a program that has the configuration which the driver remembers, if it
remembers one. -/
structure Tuned (external : External) (d : Driver External) : Prop where
  program : d.compiler.program = external.program
  args : d.compiler.args = external.args
  applied : ∀ config, d.applied = some config → d.compiler.config = some config

variable {σ : Type} {external : External} {d : Driver External} {p : BuildPlan} {r : BuildRequest}

theorem Tuned.configure (h : d.Tuned external) {config : CompilerConfig}
    (hlevel : config.level.toNat ≤ Wrapper.maxLevel) :
    ∃ d' events, configure External.compiler d config = (.ok (), d', events) ∧
      d'.Tuned external ∧ d'.compiler.config = some config := by
  by_cases happlied : d.applied = some config
  · -- The driver does not tell the program again, and need not.
    exact ⟨d, [], if_pos happlied, h, h.applied config happlied⟩
  · have haccepted : External.configure config d.compiler =
        { result := .ok (), state := { d.compiler with config := some config },
          events := [d.compiler.configuring config] } :=
      if_neg (Nat.not_lt_of_le hlevel)
    let tuned : Driver External :=
      { d with applied := some config, compiler := { d.compiler with config := some config } }
    have hconfigure : Driver.configure External.compiler d config =
        (.ok (), tuned, [reconfiguring config, d.compiler.configuring config]) := by
      rw [Driver.configure, if_neg happlied]
      simp only [External.compiler, haccepted]
      rfl
    exact ⟨tuned, _, hconfigure, ⟨h.program, h.args, fun _ hsame => hsame⟩, rfl⟩

/-- Compiling keeps a driver tuned, fails for no configuration, and starts the program with the
arguments of the plan's configuration. -/
theorem Tuned.compile (h : d.Tuned external) (hlevel : p.config.level.toNat ≤ Wrapper.maxLevel)
    (m : Machine) :
    let compiled := ((compile External.compiler d p).run m).1
    compiled.2.Tuned external ∧ (∀ flaw, compiled.1 = .error flaw → flaw.Unrelated) ∧
      (compile External.compiler d p).launches m =
        [.launch external.program (external.commandLine p.config) p.script.bitcode] := by
  obtain ⟨d', events, hconfigure, htuned, hconfig⟩ := h.configure hlevel
  obtain ⟨hstate, hflaw, hlaunches⟩ :=
    External.compile_configured hconfig p.script ((Routine.sayAll events).run m).2
  have hsilent (events : List Event) (m : Machine) : (Routine.sayAll events).launches m = [] :=
    (Routine.launchless_sayAll events).launches m
  have hquiet (event : Event) (m : Machine) : (Routine.say event).launches m = [] := rfl
  have hcommand : External.commandLine d'.compiler p.config = external.commandLine p.config := by
    rw [External.commandLine, htuned.args, External.commandLine]
  rw [htuned.program, hcommand] at hlaunches
  simp only [Driver.compile, hconfigure, Routine.run_bind, Routine.launches_bind]
  refine ⟨⟨?_, ?_, ?_⟩, hflaw, ?_⟩
  · exact (congrArg External.program hstate).trans htuned.program
  · exact (congrArg External.args hstate).trans htuned.args
  · intro config happlied
    exact (congrArg External.config hstate).trans (htuned.applied config happlied)
  · rw [hsilent, External.compiler, hlaunches, hsilent, hquiet]
    rfl

/-! ### Whole builds -/

/-- A build comes to a configuration whose level the program accepts. -/
theorem level_planned (hs : d.settings.validate = .ok ())
    (hplan : plan External.compiler d r = .ok p) : p.config.level.toNat ≤ Wrapper.maxLevel := by
  rw [(planned hplan).config]
  exact CompilerConfig.level_resolve hs (planned hplan).wrapper

theorem launchless_load (bytes : Bytes) (origin : String) (resolvers : ResolverChain) :
    (Executable.load bytes origin resolvers).Launchless :=
  (Routine.launchless_sayAll _).bind fun _ => trivial

/-- A driver that was made for some settings has them, and they go together. -/
theorem of_ok {settings : Settings} {made : Driver External}
    (h : Driver.of settings external = .ok made) :
    settings.validate = .ok () ∧ made.settings = settings ∧ made.Tuned external := by
  obtain ⟨hvalid, hmade⟩ := of_eq_ok.mp h
  subst hmade
  exact ⟨hvalid, rfl, rfl, rfl, nofun⟩

section

variable [Wire.Memory]

/-- What was compiled goes into the script's slot. -/
theorem kept_object (c : Compiler σ) (d : Driver σ) (r : BuildRequest) (m : Machine)
    {p : BuildPlan} {object : Bytes} (hplan : plan c d r = .ok p)
    (hmiss : ((d.reuse p).run m).1 = .ok none)
    (hobject : ((compile c d p).run ((d.reuse p).run m).2).1.1 = .ok object) :
    ((build c d r).run m).2.disk =
      ((p.keep d.store object).run (compiledOn c d p m)).2.disk := by
  have hcourse := course c d r m
  generalize (build c d r).run m = built at *
  cases hcourse with
  | refused flaw hflaw => cases hplan.symm.trans hflaw
  | brokenOff q m' e hq hreuse =>
    cases hplan.symm.trans hq
    rw [hreuse] at hmiss
    cases hmiss
  | reused q m' b hq hreuse =>
    cases hplan.symm.trans hq
    rw [hreuse] at hmiss
    cases hmiss
  | uncompiled q m' m'' e d' hq hreuse hcompiled =>
    cases hplan.symm.trans hq
    rw [hreuse, hcompiled] at hobject
    cases hobject
  | compiled q m' m'' object' d' hq hreuse hcompiled =>
    cases hplan.symm.trans hq
    have hkin := compile_kin c d p m'
    rw [hcompiled] at hkin
    rw [hreuse, hcompiled] at hobject
    cases hobject
    rw [compiledOn, hreuse, hcompiled, (finish_run d'.store p object m'').2.disk, hkin.store]

theorem launchless_reuse (d : Driver σ) (p : BuildPlan) : (d.reuse p).Launchless := by
  refine (launchless_lookup d.store p.dependencies p.signature).bind fun outcome => ?_
  cases outcome with
  | brokenOff | miss => trivial
  | hit artifact =>
    refine (launchless_load artifact.bytes artifact.path p.resolvers).bind fun result => ?_
    cases result with
    | ok executable => exact (Routine.launchless_say _).bind fun _ => trivial
    | error e => exact (Routine.launchless_say _).bind fun _ => trivial

theorem launchless_finish (store : Store) (p : BuildPlan) (object : Bytes) :
    (finish store p object).Launchless := by
  have hpersist : (persist store p object).Launchless := by
    refine (launchless_insert store object _).bind fun result => ?_
    cases result with
    | ok u => trivial
    | error e => exact (Routine.launchless_say _).bind fun _ => trivial
  refine hpersist.bind fun persisted => ?_
  refine (launchless_load object p.slot.artifact p.resolvers).bind fun result => ?_
  cases result with
  | error e => exact (Routine.launchless_say _).bind fun _ => trivial
  | ok executable => exact (Routine.launchless_say _).bind fun _ => trivial

/-- A build starts programs in its compilation only. -/
theorem build_launches (c : Compiler σ) (d : Driver σ) (r : BuildRequest) (m : Machine) :
    (build c d r).launches m = [] ∨
      ∃ p, plan c d r = .ok p ∧ ((d.reuse p).run m).1 = .ok none ∧
        (build c d r).launches m = (compile c d p).launches ((d.reuse p).run m).2 := by
  rw [build]
  cases hplan : plan c d r with
  | error flaw => exact .inl rfl
  | ok p =>
    simp only [Routine.launches_bind, (launchless_reuse d p).launches, List.nil_append]
    cases hreuse : ((d.reuse p).run m).1 with
    | error e => exact .inl rfl
    | ok answer =>
      cases answer with
      | some built => exact .inl rfl
      | none =>
        refine .inr ⟨p, rfl, hreuse, ?_⟩
        simp only [buildAnew, Routine.launches_bind]
        cases ((compile c d p).run ((d.reuse p).run m).2).1.1 with
        | error e => exact List.append_nil _
        | ok object =>
          simp only [Routine.launches_bind, (launchless_finish _ p object).launches]
          exact List.append_nil _

/-- A build keeps a driver tuned, however it ends, and fails for no configuration. -/
theorem Tuned.build (h : d.Tuned external) (hs : d.settings.validate = .ok ()) (r : BuildRequest)
    (m : Machine) :
    let built := ((build External.compiler d r).run m).1
    built.2.Tuned external ∧
      ∀ resource flaw, built.1 = .error (.compile resource flaw) → flaw.Unrelated := by
  have hcompile {p : BuildPlan} (hplan : plan External.compiler d r = .ok p) (m : Machine) :=
    h.compile (level_planned hs hplan) m
  have hcourse := course External.compiler d r m
  generalize (Driver.build External.compiler d r).run m = built at *
  cases hcourse with
  | refused flaw => exact ⟨h, nofun⟩
  | brokenOff p m' e _ hreuse =>
    obtain rfl := of_reuse_error (congrArg Prod.fst hreuse)
    exact ⟨h, nofun⟩
  | reused => exact ⟨h, nofun⟩
  | uncompiled p m' m'' e d' hplan _ hcompiled =>
    obtain ⟨htuned, hflaw, -⟩ := hcompile hplan m'
    rw [hcompiled] at htuned hflaw
    refine ⟨htuned, ?_⟩
    rintro _ _ ⟨⟩
    exact hflaw e rfl
  | compiled p m' m'' object d' hplan _ hcompiled =>
    obtain ⟨htuned, -, -⟩ := hcompile hplan m'
    rw [hcompiled] at htuned
    refine ⟨htuned, fun resource flaw hflaw => ?_⟩
    have hresult := (finish_run d'.store p object m'').1
    rw [resultOf] at hresult
    split at hresult
    · cases hresult.symm.trans hflaw
    · cases hresult.symm.trans hflaw

theorem Tuned.after (h : d.Tuned external) (hs : d.settings.validate = .ok ())
    (builds : List (Machine × BuildRequest)) :
    (d.after External.compiler builds).Tuned external := by
  induction builds generalizing d with
  | nil => exact h
  | cons b builds ih =>
    -- The settings stay, so what the next build comes to is in range as well.
    have hsettings := (build_kin External.compiler d b.2 b.1).settings
    exact ih (h.build hs b.2 b.1).1 (hsettings ▸ hs)

/-- A driver that was made for a program, whether configured already or not, builds after any other
builds without an error about the program's configuration. A program that it starts on the way is
this one, it starts it once, and the arguments are the fixed ones and then the level, which is one of
four, and the precision unless it is full: those of the configuration that this build comes to, with
whose signature the object goes into the cache. -/
theorem commands_as_configured {settings : Settings} {made : Driver External}
    (hmade : Driver.of settings external = .ok made) (runtime fallback : ResolverChain)
    (earlier : List (Machine × BuildRequest)) (m : Machine) (r : BuildRequest) :
    let start := { made with runtimeResolvers := runtime, fallbackResolvers := fallback }
    let d := start.after External.compiler earlier
    let built := (build External.compiler d r).run m
    (∀ resource reason, built.1.1 ≠ .error (.compile resource (.config reason))) ∧
      (∀ resource, built.1.1 ≠ .error (.compile resource .notConfigured)) ∧
      ∀ program args input,
        .launch program args input ∈ (build External.compiler d r).launches m →
          ∃ p wrapper, plan External.compiler d r = .ok p ∧
            Wrapper.parse r.bitcode = .ok wrapper ∧
            let config := CompilerConfig.resolve wrapper settings.compiler
            config.level ≤ 3 ∧ program = external.program ∧ input = wrapper.payload r.bitcode ∧
              args = external.args ++ [s!"-O{config.level}"] ++
                (if config.precision = .full then []
                  else [s!"-fprecision={config.precision.name}"]) ∧
              (build External.compiler d r).launches m = [.launch program args input] ∧
              ∀ object,
                ((compile External.compiler d p).run ((d.reuse p).run m).2).1.1 = .ok object →
                  built.2.disk = ((d.store.insert p.slot object
                    (.ofArtifact p.dependencies config.signature object)).run
                      (compiledOn External.compiler d p m)).2.disk := by
  intro start d built
  obtain ⟨hvalid, hsettings, htuned⟩ := of_ok hmade
  have hstart : start.settings.validate = .ok () := by
    show made.settings.validate = .ok ()
    rw [hsettings]
    exact hvalid
  have hkin : start.Kin d := kin_after External.compiler start earlier
  have hd : d.settings = settings := hkin.settings.trans hsettings
  have hdvalid : d.settings.validate = .ok () := hd ▸ hvalid
  have hstarttuned : start.Tuned external := ⟨htuned.program, htuned.args, htuned.applied⟩
  have hdtuned : d.Tuned external := hstarttuned.after hstart earlier
  obtain ⟨-, hunrelated⟩ := hdtuned.build hdvalid r m
  refine ⟨fun resource reason herror => (hunrelated _ _ herror).1 reason rfl,
    fun resource herror => (hunrelated _ _ herror).2 rfl, fun program args input hlaunch => ?_⟩
  -- Where a program is started, it is started by the one compilation of this build.
  rcases build_launches External.compiler d r m with hnone | ⟨p, hplan, hmiss, hlaunches⟩
  · rw [hnone] at hlaunch
    cases hlaunch
  have hp := planned hplan
  have hlevel := level_planned hdvalid hplan
  have hconfig : p.config = .resolve p.wrapper settings.compiler := by rw [hp.config, hd]
  obtain ⟨-, -, hcommand⟩ := hdtuned.compile hlevel ((d.reuse p).run m).2
  rw [hlaunches, hcommand] at hlaunch
  cases List.mem_singleton.mp hlaunch
  refine ⟨p, p.wrapper, hplan, hp.wrapper, ?_, rfl, ?_, ?_, ?_, fun object hobject => ?_⟩
  · rw [← hconfig]
    exact UInt8.le_iff_toNat_le.mpr hlevel
  · rw [BuildPlan.script, hp.bitcode]
  · rw [← hconfig]
    rfl
  · rw [hlaunches, hcommand]
  · rw [← hconfig]
    exact kept_object External.compiler d r m hplan hmiss hobject

end

section

attribute [local instance] Wire.Memory.addressSpace

/-- A driver with settings of its own tells the program of them, whatever it was configured for. -/
theorem commands_of_settings :
    let settings : Settings :=
      { compiler := { optimizationLevel := some 2, precision := some .relaxed } }
    let external : External :=
      { program := "cc", args := ["-c"], config := some ⟨9, .full, 0⟩ }
    let request : BuildRequest := ⟨"c", "a", Utf8.encode "BC"⟩
    let m : Machine :=
      { Machine.blank with launcher := fun _ _ _ disk => (.ok ⟨some 0, [1], [], 0, 0⟩, disk) }
    let launch : Action := .launch "cc" ["-c", "-O2", "-fprecision=relaxed"] request.bitcode
    ∃ made, Driver.of settings external = .ok made ∧
      launch ∈ (build External.compiler made request).launches m ∧
      (build External.compiler made request).launches m = [launch] := by
  intro settings external request m launch
  let made : Driver External :=
    { settings, store := ⟨settings.lock.policy, settings.cache.forceRecompile⟩, compiler := external }
  have hmade : Driver.of settings external = .ok made := rfl
  have hlaunch : launch ∈ (build External.compiler made request).launches m := by decide +kernel
  obtain ⟨-, -, hlaunches⟩ := commands_as_configured hmade {} {} [] m request
  obtain ⟨p, wrapper, -, -, -, -, -, -, hone, -⟩ := hlaunches _ _ _ hlaunch
  exact ⟨made, hmade, hlaunch, hone⟩

end

end Driver

end ScriptCache
