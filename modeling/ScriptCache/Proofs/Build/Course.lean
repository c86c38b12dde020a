import Mathlib
import ScriptCache.Build.Driver
import ScriptCache.Compiler.Scripted
import ScriptCache.Proofs.Machine.Reading
import ScriptCache.Proofs.Slot.Names

/-! The course of a build.

A build is refused, or it looks its script up and goes on from there: it breaks off, it has its
answer, or it compiles, and what was compiled is put into the cache and loaded (`course`). What is
said on the way changes nothing else (`Machine.Spoken`), so each part of a build comes to a value
of the plan and to what the cache made of it. -/
namespace ScriptCache

theorem ok_of_toOption {ε α : Type} {result : Except ε α} {a : α} (h : result.toOption = some a) :
    result = .ok a := by
  cases result with
  | error e => cases h
  | ok b =>
    cases h
    rfl

/-! ### Parts of a build -/

namespace BuildPlan

/-- An object as the script's executable. -/
def load (p : BuildPlan) (object : Bytes) : Except LoadError Executable :=
  (Executable.loadImage object p.slot.artifact p.resolvers).1

variable [Wire.Memory]

/-- Looks the script up. -/
def seek (p : BuildPlan) (store : Store) : Routine LookupOutcome :=
  store.lookup p.slot p.dependencies p.signature

/-- Puts an object into the script's slot. -/
def keep (p : BuildPlan) (store : Store) (object : Bytes) : Routine (Except CacheError Unit) :=
  store.insert p.slot object (.ofArtifact p.dependencies p.signature object)

end BuildPlan

namespace Driver

variable {σ : Type} {c : Compiler σ} {d : Driver σ} {r : BuildRequest} {p : BuildPlan}

theorem load_run (bytes : Bytes) (origin : String) (resolvers : ResolverChain) (m : Machine) :
    ((Executable.load bytes origin resolvers).run m).1 =
        (Executable.loadImage bytes origin resolvers).1 ∧
      m.Spoken ((Executable.load bytes origin resolvers).run m).2 := by
  rw [Executable.load, Routine.run_bind]
  exact ⟨rfl, spoken_sayAll _ m⟩

/-- What looking a script up comes to. -/
def answerOf (p : BuildPlan) : LookupOutcome → Except BuildError (Option Built)
  | .brokenOff => .error .brokenOff
  | .miss _ => .ok none
  | .hit artifact => .ok <|
    (Executable.loadImage artifact.bytes artifact.path p.resolvers).1.toOption.map
      (⟨·, .cacheHit, true⟩)

section

variable [Wire.Memory]

theorem reuse_run (d : Driver σ) (p : BuildPlan) (m : Machine) :
    ((d.reuse p).run m).1 = answerOf p ((p.seek d.store).run m).1 ∧
      ((p.seek d.store).run m).2.Spoken ((d.reuse p).run m).2 := by
  rw [reuse, Routine.run_bind, ← BuildPlan.seek]
  generalize (p.seek d.store).run m = looked
  obtain ⟨outcome, m'⟩ := looked
  cases outcome with
  | brokenOff => exact ⟨rfl, .refl m'⟩
  | miss reason => exact ⟨rfl, .refl m'⟩
  | hit artifact =>
    obtain ⟨hresult, hspoken⟩ := load_run artifact.bytes artifact.path p.resolvers m'
    simp only [answerOf, ← hresult, Routine.run_bind]
    cases ((Executable.load artifact.bytes artifact.path p.resolvers).run m').1 with
    | ok executable => exact ⟨rfl, hspoken.trans (spoken_say _ _)⟩
    | error e => exact ⟨rfl, hspoken.trans (spoken_say _ _)⟩

/-- What is reused comes from the cache and is there. -/
theorem of_reuse {m : Machine} {built : Built} (h : ((d.reuse p).run m).1 = .ok (some built)) :
    built.origin = .cacheHit ∧ built.persisted = true := by
  rw [(reuse_run d p m).1] at h
  cases hlooked : ((p.seek d.store).run m).1 with
  | brokenOff | miss =>
    rw [hlooked] at h
    cases h
  | hit artifact =>
    rw [hlooked] at h
    obtain ⟨executable, -, rfl⟩ := Option.map_eq_some_iff.mp (Except.ok.inj h)
    exact ⟨rfl, rfl⟩

/-- What a compiled object comes to. -/
def resultOf (p : BuildPlan) (object : Bytes) (kept : Except CacheError Unit) :
    Except BuildError Built :=
  match p.load object with
  | .ok executable => .ok ⟨executable, .compiled, kept.isOk⟩
  | .error e => .error (.load p.slot.artifact e)

theorem persist_run (store : Store) (p : BuildPlan) (object : Bytes) (m : Machine) :
    ((persist store p object).run m).1 = ((p.keep store object).run m).1.isOk ∧
      ((p.keep store object).run m).2.Spoken ((persist store p object).run m).2 := by
  rw [persist, Routine.run_bind, ← BuildPlan.keep]
  cases ((p.keep store object).run m).1 with
  | ok => exact ⟨rfl, .refl _⟩
  | error e => exact ⟨rfl, spoken_say _ _⟩

theorem finish_run (store : Store) (p : BuildPlan) (object : Bytes) (m : Machine) :
    ((finish store p object).run m).1 = resultOf p object ((p.keep store object).run m).1 ∧
      ((p.keep store object).run m).2.Spoken ((finish store p object).run m).2 := by
  obtain ⟨hkept, hspoken⟩ := persist_run store p object m
  obtain ⟨hresult, hloaded⟩ := load_run object p.slot.artifact p.resolvers
    ((persist store p object).run m).2
  simp only [finish, resultOf, BuildPlan.load, ← hresult, ← hkept, Routine.run_bind]
  cases ((Executable.load object p.slot.artifact p.resolvers).run
      ((persist store p object).run m).2).1 with
  | ok executable => exact ⟨rfl, hspoken.trans (hloaded.trans (spoken_say _ _))⟩
  | error e => exact ⟨rfl, hspoken.trans (hloaded.trans (spoken_say _ _))⟩

end

/-- What a plan has to do with the request it was made for. -/
structure Planned (c : Compiler σ) (d : Driver σ) (r : BuildRequest) (p : BuildPlan) : Prop where
  folder : p.slot.folder = r.folder
  name : p.slot.name = r.name
  bitcode : p.bitcode = r.bitcode
  wrapper : Wrapper.parse r.bitcode = .ok p.wrapper
  config : p.config = .resolve p.wrapper d.settings.compiler
  dependencies : p.dependencies = dependencies r.name r.bitcode (c.runtime d.compiler)
  resolvers : p.resolvers = d.runtimeResolvers.followedBy d.fallbackResolvers

theorem planned (h : plan c d r = .ok p) : Planned c d r p := by
  unfold plan at h
  split at h
  · cases h
  split at h
  · cases h
  cases hslot : Slot.of r.folder r.name with
  | error flaw =>
    rw [hslot] at h
    cases h
  | ok slot =>
    rw [hslot] at h
    cases hwrapper : Wrapper.parse r.bitcode with
    | error flaw =>
      rw [hwrapper] at h
      cases h
    | ok wrapper =>
      rw [hwrapper] at h
      cases h
      obtain ⟨hfolder, hname⟩ := Slot.of_eq_ok.mp hslot
      exact ⟨hfolder, hname, rfl, hwrapper, rfl, rfl, rfl⟩

/-- The script of a plan is the request's, whoever made the plan. -/
theorem Planned.script {c' : Compiler σ} {d' : Driver σ} {p' : BuildPlan} (h : Planned c d r p)
    (h' : Planned c' d' r p') : p.script = p'.script := by
  have hwrapper : p.wrapper = p'.wrapper := Except.ok.inj (h.wrapper.symm.trans h'.wrapper)
  simp only [BuildPlan.script, h.name, h'.name, h.bitcode, h'.bitcode, hwrapper]

/-! ### Compilations -/

/-- The course of a compilation: the compiler refuses its configuration, or it has one and
compiles. -/
inductive Compilation (c : Compiler σ) (d : Driver σ) (p : BuildPlan) (m : Machine) :
    (Except CompileError Bytes × Driver σ) × Machine → Prop
  | refused (e : CompileError) (d' : Driver σ) (events : List Event) (m' : Machine) :
    configure c d p.config = (.error e, d', events) → m.Spoken m' →
    Compilation c d p m ((.error e, d'), m')
  | answered (d' : Driver σ) (events : List Event) (m' m'' : Machine)
    (reply : CompilerReply σ Bytes) (left : Machine) :
    configure c d p.config = (.ok (), d', events) → m.Spoken m' →
    (c.compile p.script d'.compiler).run m' = (reply, left) → left.Spoken m'' →
    Compilation c d p m ((reply.result, { d' with compiler := reply.state }), m'')

theorem compilation (c : Compiler σ) (d : Driver σ) (p : BuildPlan) (m : Machine) :
    Compilation c d p m ((compile c d p).run m) := by
  simp only [compile, Routine.run_bind]
  rcases hconfigure : configure c d p.config with ⟨configured, d', events⟩
  have hsaid := spoken_sayAll events m
  cases configured with
  | error e => exact .refused e d' events _ hconfigure (hsaid.trans (spoken_say _ _))
  | ok =>
    simp only [Routine.run_bind]
    rcases hreply : (c.compile p.script d'.compiler).run ((Routine.sayAll events).run m).2 with
      ⟨reply, left⟩
    exact .answered d' events _ _ reply left hconfigure hsaid hreply
      ((spoken_sayAll _ _).trans (spoken_say _ _))

/-- Whether two drivers differ in nothing but their compiler and what they remember of it. -/
structure Kin (d d' : Driver σ) : Prop where
  settings : d'.settings = d.settings
  store : d'.store = d.store
  runtime : d'.runtimeResolvers = d.runtimeResolvers
  fallback : d'.fallbackResolvers = d.fallbackResolvers

theorem Kin.refl (d : Driver σ) : d.Kin d :=
  ⟨rfl, rfl, rfl, rfl⟩

theorem Kin.trans {d d' d'' : Driver σ} (h : d.Kin d') (h' : d'.Kin d'') : d.Kin d'' :=
  ⟨h'.settings.trans h.settings, h'.store.trans h.store, h'.runtime.trans h.runtime,
    h'.fallback.trans h.fallback⟩

theorem configure_kin (c : Compiler σ) (d : Driver σ) (config : CompilerConfig) :
    d.Kin (configure c d config).2.1 := by
  unfold configure
  split
  · exact .refl d
  · exact ⟨rfl, rfl, rfl, rfl⟩

theorem compile_kin (c : Compiler σ) (d : Driver σ) (p : BuildPlan) (m : Machine) :
    d.Kin ((compile c d p).run m).1.2 := by
  have hconfigure := configure_kin c d p.config
  have hcourse := compilation c d p m
  generalize (compile c d p).run m = compiled at *
  cases hcourse with
  | refused e d' events m' hconfigured =>
    rw [hconfigured] at hconfigure
    exact hconfigure
  | answered d' events m' m'' reply left hconfigured =>
    rw [hconfigured] at hconfigure
    exact hconfigure.trans ⟨rfl, rfl, rfl, rfl⟩

/-- A compiler with prepared answers does nothing to the disk. -/
theorem disk_scripted (d : Driver Scripted) (p : BuildPlan) (m : Machine) :
    ((compile Scripted.compiler d p).run m).2.disk = m.disk := by
  have hcourse := compilation Scripted.compiler d p m
  generalize (compile Scripted.compiler d p).run m = compiled at *
  cases hcourse with
  | refused e d' events m' _ hspoken => exact hspoken.disk
  | answered d' events m' m'' reply left _ hspoken hreply hspoken' =>
    simp only [Scripted.compiler, Routine.run_pure, Prod.mk.injEq] at hreply
    obtain ⟨-, rfl⟩ := hreply
    exact hspoken'.disk.trans hspoken.disk

/-! ### Whole builds -/

variable [Wire.Memory]

/-- The course of a build, with its result, the driver it leaves and the machine. -/
inductive Course (c : Compiler σ) (d : Driver σ) (r : BuildRequest) (m : Machine) :
    (Except BuildError Built × Driver σ) × Machine → Prop
  | refused (flaw : RequestFlaw) : plan c d r = .error flaw →
    Course c d r m ((.error (.invalidInput flaw.message), d), m)
  | brokenOff (p : BuildPlan) (m' : Machine) (e : BuildError) : plan c d r = .ok p →
    (d.reuse p).run m = (.error e, m') → Course c d r m ((.error e, d), m')
  | reused (p : BuildPlan) (m' : Machine) (built : Built) : plan c d r = .ok p →
    (d.reuse p).run m = (.ok (some built), m') → Course c d r m ((.ok built, d), m')
  | uncompiled (p : BuildPlan) (m' m'' : Machine) (e : CompileError) (d' : Driver σ) :
    plan c d r = .ok p → (d.reuse p).run m = (.ok none, m') →
    (compile c d p).run m' = ((.error e, d'), m'') →
    Course c d r m ((.error (.compile p.slot.name e), d'), m'')
  | compiled (p : BuildPlan) (m' m'' : Machine) (object : Bytes) (d' : Driver σ) :
    plan c d r = .ok p → (d.reuse p).run m = (.ok none, m') →
    (compile c d p).run m' = ((.ok object, d'), m'') →
    Course c d r m
      ((((finish d'.store p object).run m'').1, d'), ((finish d'.store p object).run m'').2)

theorem course (c : Compiler σ) (d : Driver σ) (r : BuildRequest) (m : Machine) :
    Course c d r m ((build c d r).run m) := by
  rw [build]
  cases hplan : plan c d r with
  | error flaw => exact .refused flaw hplan
  | ok p =>
    simp only [Routine.run_bind]
    rcases hreuse : (d.reuse p).run m with ⟨answer, m'⟩
    cases answer with
    | error e => exact .brokenOff p m' e hplan hreuse
    | ok answer =>
      cases answer with
      | some built => exact .reused p m' built hplan hreuse
      | none =>
        simp only [buildAnew, Routine.run_bind]
        rcases hcompile : (compile c d p).run m' with ⟨⟨result, d'⟩, m''⟩
        cases result with
        | error e => exact .uncompiled p m' m'' e d' hplan hreuse hcompile
        | ok object =>
          show Course c d r m
            ((finish d'.store p object >>= fun result => pure (result, d')).run m'')
          rw [Routine.run_bind]
          exact .compiled p m' m'' object d' hplan hreuse hcompile

/-- Whether a build that ends with some origin gets an object to load, and under which path: from the
cache, or, after the lookup, from the compiler. -/
inductive Supplied (c : Compiler σ) (d : Driver σ) (p : BuildPlan) (m : Machine) :
    BuildOrigin → String → Bytes → Prop
  | cached (artifact : CachedArtifact) : ((p.seek d.store).run m).1 = .hit artifact →
    Supplied c d p m .cacheHit artifact.path artifact.bytes
  | compiled (object : Bytes) : ((compile c d p).run ((d.reuse p).run m).2).1.1 = .ok object →
    Supplied c d p m .compiled p.slot.artifact object

/-- What a build answers was loaded from an object that it was supplied with. -/
theorem supplied {built : Built} (h : ((build c d r).run m).1.1 = .ok built) :
    ∃ p path object, plan c d r = .ok p ∧ Supplied c d p m built.origin path object ∧
      (Executable.loadImage object path p.resolvers).1 = .ok built.executable := by
  have hcourse := course c d r m
  generalize (build c d r).run m = outcome at *
  cases hcourse with
  | refused | brokenOff | uncompiled => cases h
  | reused p m' b hplan hreuse =>
    cases h
    have hanswer := (reuse_run d p m).1
    rw [hreuse] at hanswer
    cases hlooked : ((p.seek d.store).run m).1 with
    | brokenOff | miss =>
      rw [hlooked] at hanswer
      cases hanswer
    | hit artifact =>
      rw [hlooked] at hanswer
      obtain ⟨executable, hload, hbuilt⟩ := Option.map_eq_some_iff.mp (Except.ok.inj hanswer).symm
      subst hbuilt
      exact ⟨p, artifact.path, artifact.bytes, hplan, .cached artifact hlooked,
        ok_of_toOption hload⟩
  | compiled p m' m'' object d' hplan hreuse hcompile =>
    rw [(finish_run d'.store p object m'').1] at h
    unfold resultOf at h
    split at h
    · rename_i executable hload
      cases h
      exact ⟨p, p.slot.artifact, object, hplan, .compiled object (by rw [hreuse, hcompile]), hload⟩
    · cases h

/-- A build changes no more of a driver than its compiler. -/
theorem build_kin (c : Compiler σ) (d : Driver σ) (r : BuildRequest) (m : Machine) :
    d.Kin ((build c d r).run m).1.2 := by
  have hcourse := course c d r m
  generalize (build c d r).run m = built at *
  cases hcourse with
  | refused | brokenOff | reused => exact .refl d
  | uncompiled p m' m'' e d' _ _ hcompile =>
    have hkin := compile_kin c d p m'
    rw [hcompile] at hkin
    exact hkin
  | compiled p m' m'' object d' _ _ hcompile =>
    have hkin := compile_kin c d p m'
    rw [hcompile] at hkin
    exact hkin

end Driver

end ScriptCache
