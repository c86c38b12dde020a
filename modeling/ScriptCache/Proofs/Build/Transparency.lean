import Mathlib
import ScriptCache.Compiler.Scripted
import ScriptCache.Proofs.Build.Course
import ScriptCache.Proofs.Build.Inputs
import ScriptCache.Proofs.Store.Refinement

/-! The cache is transparent.

Any number of drivers build scripts in one cache folder that was empty at first. What is whole in
the folder was put there by an earlier build of the same resource, whose object it is
(`Shop.Stocked`). A hit is therefore the object of a build with the same inputs and the same
settings; if such builds compile alike, it is the object that its own build would have compiled,
and it is loaded through its own build's resolvers (`hit_as_compiled_afresh`). -/
namespace ScriptCache

/-! ### What leaves a cache folder alone -/

/-- Whether a cache folder that is missing stays so, and one that is there stays as it is, with
the files in it. -/
structure Disk.Spares (path : String) (d d' : Disk) : Prop where
  absent : d.Absent path → d'.Absent path
  leads : ∀ folder, d.Leads path folder → d'.Leads path folder
  folder : ∀ folder, d.Leads path folder → d'.node? folder = d.node? folder
  file : ∀ folder name id, d.Leads path folder → d.child? folder name = some id →
    d'.node? id = d.node? id

section

variable {path : String} {d d' : Disk} {ledger : Ledger}

theorem Disk.Spares.refl (path : String) (d : Disk) : d.Spares path d :=
  ⟨id, fun _ => id, fun _ _ => rfl, fun _ _ _ _ _ => rfl⟩

theorem Routine.orderly_run {α : Type} (routine : Routine α) {m : Machine} (hlocks : m.LocksApart)
    (hreleases : ∀ release ∈ m.releases, release.2 < m.files.length) :
    (routine.run m).2.LocksApart ∧
      ∀ release ∈ (routine.run m).2.releases, release.2 < (routine.run m).2.files.length := by
  induction routine generalizing m with
  | done a => exact ⟨hlocks, hreleases⟩
  | act action next ih =>
    have hframe := Machine.frame_perform m action
    exact ih _ (hlocks.perform action) fun release hrelease =>
      Nat.lt_of_lt_of_le (hreleases release (hframe.releases release hrelease)) hframe.length

variable [Wire.Memory]

theorem Site.spared (h : Site path d ledger) (hspares : d.Spares path d') : Site path d' ledger := by
  rcases h with ⟨habsent, hnone⟩ | ⟨folder, hleads, htidy, hfiled⟩
  · exact .inl ⟨hspares.absent habsent, hnone⟩
  have hchild (name : String) : d'.child? folder name = d.child? folder name := by
    rw [Disk.child?, hspares.folder folder hleads, Disk.child?]
  have hcontent {name : String} {id : NodeId} (hentry : d.child? folder name = some id) :
      d'.fileContent? id = d.fileContent? id :=
    Disk.fileContent?_congr (hspares.file folder name id hleads hentry)
  have hsame (name : String) : d'.content? folder name = d.content? folder name := by
    rw [Disk.content?, Disk.content?, hchild]
    cases hentry : d.child? folder name with
    | none => rfl
    | some id => exact hcontent hentry
  refine .inr ⟨folder, hspares.leads folder hleads, ⟨?_, fun {name id} _ hentry => ?_, ?_⟩,
    fun name => (hfiled name).congr (fun _ h => (hsame _).trans h) (.inl (hsame _))⟩
  · obtain ⟨entries, hnode⟩ := htidy.isFolder
    exact ⟨entries, (hspares.folder folder hleads).trans hnode⟩
  · rw [hchild] at hentry
    obtain ⟨content, hfile⟩ := htidy.file trivial hentry
    exact ⟨content, (hcontent hentry).trans hfile⟩
  · intro name name' id _ _ hentry hentry'
    rw [hchild] at hentry hentry'
    exact htidy.apart trivial trivial hentry hentry'

/-- What leaves the cache folder alone keeps what a ledger says. -/
theorem Sound.spared {α : Type} {routine : Routine α} {m : Machine}
    (h : Sound path ⟨m, ledger⟩) (hspares : m.disk.Spares path (routine.run m).2.disk) :
    Sound path ⟨(routine.run m).2, ledger⟩ := by
  obtain ⟨hlocks, hreleases⟩ := routine.orderly_run h.locks h.releases
  have hrefuses : (routine.run m).2.refuses = m.refuses :=
    congrArg Prod.snd (routine.yields_run m).setting
  exact ⟨hlocks, hreleases, fun path mode => hrefuses ▸ h.unrestricted path mode,
    h.site.spared hspares⟩

theorem Sound.spoken {m m' : Machine} (h : Sound path ⟨m, ledger⟩) (hspoken : m.Spoken m') :
    Sound path ⟨m', ledger⟩ := by
  obtain ⟨events, rfl⟩ := hspoken
  exact ⟨⟨h.locks.apart⟩, h.releases, h.unrestricted, h.site⟩

end

/-! ### Runs of builds -/

/-- A build that was made: by a driver as it was then, on the machine as it was then. -/
structure Turn (σ : Type) where
  driver : Driver σ
  machine : Machine
  request : BuildRequest

/-- Drivers that build in one cache folder, with the builds so far, the latest first. -/
structure Shop (σ : Type) where
  machine : Machine
  drivers : List (Driver σ)
  turns : List (Turn σ) := []

section

variable [Wire.Memory] {σ : Type} {c : Compiler σ} {folder : String}

namespace Turn

/-- How the build went, with the driver and the machine after it. -/
def outcome (c : Compiler σ) (t : Turn σ) : (Except BuildError Built × Driver σ) × Machine :=
  (t.driver.build c t.request).run t.machine

def result (c : Compiler σ) (t : Turn σ) : Except BuildError Built :=
  (t.outcome c).1.1

/-- The machine on which the build compiles, if it comes to that. -/
def bench (t : Turn σ) (p : BuildPlan) : Machine :=
  ((t.driver.reuse p).run t.machine).2

/-- What compiling the script comes to, whether the build compiles or not. -/
def afresh (c : Compiler σ) (t : Turn σ) (p : BuildPlan) : Except CompileError Bytes :=
  ((t.driver.compile c p).run (t.bench p)).1.1

end Turn

namespace Shop

/-- The build of a resource by one of the drivers. -/
def step (c : Compiler σ) (folder : String) (s : Shop σ) (call : Nat × String × Bytes) : Shop σ :=
  match s.drivers[call.1]? with
  | none => s
  | some driver =>
    let turn : Turn σ := ⟨driver, s.machine, folder, call.2.1, call.2.2⟩
    let outcome := turn.outcome c
    ⟨outcome.2, s.drivers.set call.1 outcome.1.2, turn :: s.turns⟩

def run (c : Compiler σ) (folder : String) (s : Shop σ) (calls : List (Nat × String × Bytes)) :
    Shop σ :=
  calls.foldl (step c folder) s

end Shop

/-! ### One build -/

namespace Turn

variable {t : Turn σ} {p : BuildPlan} {ledger : Ledger}

/-- Whether the inputs of a build can be written down. -/
def Fits (c : Compiler σ) (t : Turn σ) : Prop :=
  Driver.InputsFit (Driver.inputs t.request.name t.request.bitcode (c.runtime t.driver.compiler))

/-- Whether compiling the script leaves the cache folder alone. -/
def Spares (c : Compiler σ) (folder : String) (t : Turn σ) : Prop :=
  ∀ p, t.driver.plan c t.request = .ok p →
    (t.bench p).disk.Spares folder ((t.driver.compile c p).run (t.bench p)).2.disk

/-- Whether a build compiles to what an insertion inserts. -/
structure Yields (c : Compiler σ) (t : Turn σ) (name : String) (i : Insertion) (p : BuildPlan) :
    Prop where
  planned : t.driver.plan c t.request = .ok p
  name : p.slot.name = name
  object : t.afresh c p = .ok i.artifact
  metadata : i.metadata = .ofArtifact p.dependencies p.signature i.artifact

theorem sound_bench (hs : Sound folder ⟨t.machine, ledger⟩) (hfolder : p.slot.folder = folder) :
    Sound folder ⟨t.bench p, ledger⟩ := by
  subst hfolder
  have hlooked : Sound p.slot.folder ⟨((p.seek t.driver.store).run t.machine).2, ledger⟩ :=
    (lookup_run t.driver.store hs).1
  exact hlooked.spoken (Driver.reuse_run t.driver p t.machine).2

/-- A build leaves the ledger as it is, or enters the object that it compiled. -/
theorem sound_outcome (hs : Sound folder ⟨t.machine, ledger⟩) (hfolder : t.request.folder = folder)
    (hfits : t.Fits c) (hspares : t.Spares c folder) :
    ∃ ledger', Sound folder ⟨(t.outcome c).2, ledger'⟩ ∧ (ledger' = ledger ∨
      ∃ i p, t.Yields c i.slot.name i p ∧ ledger' = ledger.set i.slot.name ⟨i, .whole⟩) := by
  have hcourse := Driver.course c t.driver t.request t.machine
  have hplace {p : BuildPlan} (hplan : t.driver.plan c t.request = .ok p) : p.slot.folder = folder :=
    (Driver.planned hplan).folder.trans hfolder
  rw [outcome]
  generalize (t.driver.build c t.request).run t.machine = built at *
  cases hcourse with
  | refused flaw => exact ⟨ledger, hs, .inl rfl⟩
  | brokenOff p m' e hplan hreuse =>
    have hbench := sound_bench hs (hplace hplan)
    rw [bench, hreuse] at hbench
    exact ⟨ledger, hbench, .inl rfl⟩
  | reused p m' b hplan hreuse =>
    have hbench := sound_bench hs (hplace hplan)
    rw [bench, hreuse] at hbench
    exact ⟨ledger, hbench, .inl rfl⟩
  | uncompiled p m' m'' e d' hplan hreuse hcompile =>
    have hcompiled := (sound_bench hs (hplace hplan)).spared (hspares p hplan)
    rw [bench, hreuse, hcompile] at hcompiled
    exact ⟨ledger, hcompiled, .inl rfl⟩
  | compiled p m' m'' object d' hplan hreuse hcompile =>
    have hcompiled := (sound_bench hs (hplace hplan)).spared (hspares p hplan)
    rw [bench, hreuse, hcompile] at hcompiled
    have hobject : t.afresh c p = .ok object := by rw [afresh, bench, hreuse, hcompile]
    obtain rfl := hplace hplan
    have hinserted : Sound p.slot.folder ⟨((p.keep d'.store object).run m'').2,
        ledger.inserted (Driver.insertion p object) ((p.keep d'.store object).run m'').1⟩ :=
      insert_run (i := Driver.insertion p object) d'.store
        ((Driver.planned hplan).fits hfits object) hcompiled
    refine ⟨_, hinserted.spoken (Driver.finish_run d'.store p object m'').2, ?_⟩
    cases ((p.keep d'.store object).run m'').1 with
    | error e => exact .inl rfl
    | ok => exact .inr ⟨Driver.insertion p object, p, ⟨hplan, rfl, hobject, rfl⟩, rfl⟩

/-- A hit is what the ledger has of the resource. -/
theorem hit_of_result (hs : Sound folder ⟨t.machine, ledger⟩) (hfolder : t.request.folder = folder)
    {b : Built} (hresult : t.result c = .ok b) (hhit : b.origin = .cacheHit) :
    ∃ p i, t.driver.plan c t.request = .ok p ∧ Record.whole? (ledger p.slot.name) = some i ∧
      i.Serves p.dependencies p.signature ∧ p.load i.artifact = .ok b.executable := by
  obtain ⟨p, path, object, hplan, hsupplied, hload⟩ := Driver.supplied hresult
  rw [hhit] at hsupplied
  cases hsupplied with
  | cached artifact hlooked =>
    have hplace := (Driver.planned hplan).folder.trans hfolder
    subst hplace
    have hreplied : Replied t.driver.store p.slot p.dependencies p.signature (ledger p.slot.name)
        ((p.seek t.driver.store).run t.machine).1 := (lookup_run t.driver.store hs).2
    rw [hlooked] at hreplied
    cases hreplied with
    | bypassed _ miss => cases miss
    | locked _ miss => cases miss
    | served served =>
      obtain ⟨i, hwhole, hserves, rfl⟩ := (served.hit_iff artifact).mp rfl
      exact ⟨p, i, hplan, hwhole, hserves, hload⟩

end Turn

/-! ### Whole runs -/

/-- Whether two builds of a resource with the same inputs and settings compile alike: both fail,
or both have the same object. -/
def Turn.Agrees (c : Compiler σ) (t t' : Turn σ) : Prop :=
  ∀ p p', t.driver.plan c t.request = .ok p → t'.driver.plan c t'.request = .ok p' →
    p.slot.name = p'.slot.name → p.dependencies.same p'.dependencies = true →
    p.config = p'.config → (t.afresh c p).toOption = (t'.afresh c p').toOption

/-- Whether a build, if it hits, has what it would have compiled and loaded. -/
def Turn.Transparent (c : Compiler σ) (t : Turn σ) : Prop :=
  ∀ b, t.result c = .ok b → b.origin = .cacheHit →
    ∃ p object, t.driver.plan c t.request = .ok p ∧ t.afresh c p = .ok object ∧
      p.load object = .ok b.executable

/-- What is asked of the builds of a run: their inputs can be written down, compiling leaves the
cache folder alone, and builds of a resource with the same inputs and settings compile alike. -/
structure Fair (c : Compiler σ) (folder : String) (turns : List (Turn σ)) : Prop where
  fits : ∀ t ∈ turns, t.Fits c
  spares : ∀ t ∈ turns, t.Spares c folder
  agrees : ∀ t ∈ turns, ∀ t' ∈ turns, t.Agrees c t'

theorem Fair.mono {turns turns' : List (Turn σ)} (h : Fair c folder turns') (hsub : turns ⊆ turns') :
    Fair c folder turns where
  fits t ht := h.fits t (hsub ht)
  spares t ht := h.spares t (hsub ht)
  agrees t ht t' ht' := h.agrees t (hsub ht) t' (hsub ht')

namespace Shop

variable {s : Shop σ}

/-- Whether all that is whole in the cache folder is the object of an earlier build. -/
def Stocked (c : Compiler σ) (folder : String) (s : Shop σ) : Prop :=
  ∃ ledger, Sound folder ⟨s.machine, ledger⟩ ∧ ∀ name i, Record.whole? (ledger name) = some i →
    ∃ t ∈ s.turns, ∃ p, t.Yields c name i p

theorem step_cases (c : Compiler σ) (folder : String) (s : Shop σ) (call : Nat × String × Bytes) :
    s.step c folder call = s ∨ ∃ t : Turn σ, t.machine = s.machine ∧ t.request.folder = folder ∧
      (s.step c folder call).machine = (t.outcome c).2 ∧
      (s.step c folder call).turns = t :: s.turns := by
  rw [step]
  cases s.drivers[call.1]? with
  | none => exact .inl rfl
  | some driver => exact .inr ⟨_, rfl, rfl, rfl, rfl⟩

theorem Stocked.step (h : s.Stocked c folder) (call : Nat × String × Bytes)
    (hfair : Fair c folder (s.step c folder call).turns) :
    (s.step c folder call).Stocked c folder := by
  obtain ⟨ledger, hs, hstock⟩ := h
  rcases step_cases c folder s call with hsame | ⟨t, hmachine, hfolder, hafter, hturns⟩
  · rw [hsame]
    exact ⟨ledger, hs, hstock⟩
  have ht : t ∈ (s.step c folder call).turns := hturns ▸ List.mem_cons_self
  rw [← hmachine] at hs
  obtain ⟨ledger', hs', hledger⟩ := Turn.sound_outcome hs hfolder (hfair.fits t ht) (hfair.spares t ht)
  rw [Stocked, hafter, hturns]
  refine ⟨ledger', hs', fun name i hi => ?_⟩
  have hold (hi : Record.whole? (ledger name) = some i) :
      ∃ t' ∈ t :: s.turns, ∃ p, t'.Yields c name i p := by
    obtain ⟨t', ht', p, hyields⟩ := hstock name i hi
    exact ⟨t', List.mem_cons_of_mem t ht', p, hyields⟩
  rcases hledger with rfl | ⟨inserted, p, hyields, rfl⟩
  · exact hold hi
  · by_cases hname : name = inserted.slot.name
    · subst hname
      rw [Ledger.set_same] at hi
      obtain rfl : inserted = i := by simpa [Record.whole?] using hi
      exact ⟨t, List.mem_cons_self, p, hyields⟩
    · rw [Ledger.set_other hname] at hi
      exact hold hi

/-- In a stocked folder a build hits on what an earlier build like it compiled. -/
theorem Stocked.transparent {t : Turn σ} (h : s.Stocked c folder) (hmachine : t.machine = s.machine)
    (hfolder : t.request.folder = folder) (hagrees : ∀ t' ∈ s.turns, t'.Agrees c t) :
    t.Transparent c := by
  obtain ⟨ledger, hs, hstock⟩ := h
  intro b hresult hhit
  rw [← hmachine] at hs
  obtain ⟨p, i, hplan, hwhole, ⟨-, hperm, hsignature⟩, hload⟩ :=
    Turn.hit_of_result hs hfolder hresult hhit
  obtain ⟨t', ht', p', hyields⟩ := hstock p.slot.name i hwhole
  rw [hyields.metadata] at hperm hsignature
  have hsame : p'.dependencies.same p.dependencies = true :=
    (DependencyTable.same_iff_perm _ _).mpr hperm
  have hconfig : p'.config = p.config := CompilerConfig.signature_injective hsignature
  have halike := hagrees t' ht' p' p hyields.planned hplan hyields.name hsame hconfig
  rw [hyields.object] at halike
  exact ⟨p, i.artifact, hplan, ok_of_toOption halike.symm, hload⟩

theorem run_append (c : Compiler σ) (folder : String) (s : Shop σ)
    (calls : List (Nat × String × Bytes)) (call : Nat × String × Bytes) :
    s.run c folder (calls ++ [call]) = (s.run c folder calls).step c folder call := by
  rw [run, run, List.foldl_append]
  rfl

theorem turns_step (c : Compiler σ) (folder : String) (s : Shop σ) (call : Nat × String × Bytes) :
    s.turns ⊆ (s.step c folder call).turns := by
  rcases step_cases c folder s call with hsame | ⟨t, -, -, -, hturns⟩
  · rw [hsame]
    exact List.Subset.refl _
  · rw [hturns]
    exact List.subset_cons_self t s.turns

theorem run_transparent {m : Machine} (hfresh : m.Fresh folder) (drivers : List (Driver σ))
    (calls : List (Nat × String × Bytes))
    (hfair : Fair c folder (run c folder ⟨m, drivers, []⟩ calls).turns) :
    (run c folder ⟨m, drivers, []⟩ calls).Stocked c folder ∧
      ∀ t ∈ (run c folder ⟨m, drivers, []⟩ calls).turns, t.Transparent c := by
  induction calls using List.reverseRecOn with
  | nil =>
    exact ⟨⟨fun _ => none, hfresh.sound, fun _ i h => (Option.some_ne_none i h.symm).elim⟩,
      fun _ h => absurd h List.not_mem_nil⟩
  | append_singleton calls call ih =>
    rw [run_append] at hfair ⊢
    obtain ⟨hstocked, htransparent⟩ := ih (hfair.mono (turns_step c folder _ call))
    refine ⟨hstocked.step call hfair, fun t ht => ?_⟩
    rcases step_cases c folder (run c folder ⟨m, drivers, []⟩ calls) call with
      hsame | ⟨latest, hmachine, hfolder, -, hturns⟩
    · exact htransparent t (hsame ▸ ht)
    · rw [hturns] at ht hfair
      rcases List.mem_cons.mp ht with rfl | hold
      · exact hstocked.transparent hmachine hfolder fun t' ht' =>
          hfair.agrees t' (List.mem_cons_of_mem t ht') t List.mem_cons_self
      · exact htransparent t hold

/-- However many drivers build in a folder that was empty at first, in whatever order, every hit
has the executable that its own build would have had from compiling afresh and loading the object
through its own resolvers, if builds of a resource with the same inputs and settings compile alike
and no compilation touches the folder. No action of theirs fails on the way that need not; what an
object leaves that could not be put into the cache is in `failed_insert_safe`. -/
theorem hit_as_compiled_afresh {m : Machine} (hfresh : m.Fresh folder) (drivers : List (Driver σ))
    (calls : List (Nat × String × Bytes))
    (hfair : Fair c folder (run c folder ⟨m, drivers, []⟩ calls).turns) :
    ∀ t ∈ (run c folder ⟨m, drivers, []⟩ calls).turns, ∀ b, t.result c = .ok b →
      b.origin = .cacheHit → ∃ p object, t.driver.plan c t.request = .ok p ∧
        t.afresh c p = .ok object ∧ p.load object = .ok b.executable :=
  (run_transparent hfresh drivers calls hfair).2

end Shop

end

/-! ### Two drivers -/

namespace Shop

/-- A driver of a compiler whose objects import one symbol, with an address for it. -/
def driverFor (address : UInt64) : Driver Scripted where
  settings := {}
  store := {}
  runtimeResolvers := ⟨[(SymbolTable.ofList "table" [("f", address)]).resolver]⟩
  compiler := ⟨{ imports := ["f"] }, [], []⟩

section

attribute [local instance] Wire.Memory.addressSpace

theorem scripted_compile {d : Driver Scripted} (p : BuildPlan) (m : Machine)
    (hanswers : d.compiler.answers = { imports := ["f"] }) :
    ((d.compile Scripted.compiler p).run m).1.1 =
      .ok (Scripted.image { imports := ["f"] } p.script).encode := by
  have hconfigured : (d.configure Scripted.compiler p.config).1 = .ok () ∧
      (d.configure Scripted.compiler p.config).2.1.compiler.answers = { imports := ["f"] } := by
    unfold Driver.configure
    split
    · exact ⟨rfl, hanswers⟩
    · exact ⟨by simp only [Scripted.compiler, hanswers], hanswers⟩
  have hcourse := Driver.compilation Scripted.compiler d p m
  generalize (d.compile Scripted.compiler p).run m = compiled at *
  cases hcourse with
  | refused e d' events m' hconfigure =>
    rw [hconfigure] at hconfigured
    cases hconfigured.1
  | answered d' events m' m'' reply left hconfigure hspoken hreply hspoken' =>
    rw [hconfigure] at hconfigured
    have hstate : d'.compiler.answers = { imports := ["f"] } := hconfigured.2
    simp only [Scripted.compiler, Routine.run_pure, hstate, Prod.mk.injEq] at hreply
    obtain ⟨rfl, -⟩ := hreply
    rfl

/-- Two drivers build one script, and the second hits on the object of the first and binds it to
addresses of its own. -/
theorem hit_bound_anew :
    let calls := [(0, "a", Utf8.encode "BC"), (1, "a", Utf8.encode "BC")]
    let turns := (run Scripted.compiler "c" ⟨.blank, [driverFor 1, driverFor 2], []⟩ calls).turns
    Fair Scripted.compiler "c" turns ∧ ∃ t ∈ turns, ∃ b, t.result Scripted.compiler = .ok b ∧
      b.origin = .cacheHit ∧ b.executable.imports = [("f", 2)] ∧
      ∃ p object, t.driver.plan Scripted.compiler t.request = .ok p ∧
        t.afresh Scripted.compiler p = .ok object ∧ p.load object = .ok b.executable := by
  intro calls turns
  have hturns : ∀ t ∈ turns, t.request = ⟨"c", "a", Utf8.encode "BC"⟩ ∧
      t.driver.compiler.answers = { imports := ["f"] } := by
    intro t ht
    rcases List.mem_cons.mp ht with rfl | ht
    · exact ⟨rfl, rfl⟩
    · obtain rfl := List.mem_singleton.mp ht
      exact ⟨rfl, rfl⟩
  have hfair : Fair Scripted.compiler "c" turns := by
    refine ⟨fun t ht => ?_, fun t ht p hplan => ?_, fun t ht t' ht' p p' hplan hplan' _ _ _ => ?_⟩
    · obtain ⟨hrequest, hanswers⟩ := hturns t ht
      have hruntime : Scripted.compiler.runtime t.driver.compiler = [] :=
        congrArg Answers.runtime hanswers
      rw [Turn.Fits, hrequest, hruntime]
      decide +kernel
    · rw [Driver.disk_scripted]
      exact .refl _ _
    · have hscript : p.script = p'.script := by
        rw [(hturns t ht).1] at hplan
        rw [(hturns t' ht').1] at hplan'
        exact (Driver.planned hplan).script (Driver.planned hplan')
      rw [Turn.afresh, Turn.afresh, scripted_compile p _ (hturns t ht).2,
        scripted_compile p' _ (hturns t' ht').2, hscript]
  have hhit : (turns.head?.bind fun t => (t.result Scripted.compiler).toOption).map
      (fun b => (b.origin, b.executable.imports)) = some (.cacheHit, [("f", 2)]) := by
    decide +kernel
  obtain ⟨b, hb, hsame⟩ := Option.map_eq_some_iff.mp hhit
  obtain ⟨t, ht, hresult⟩ := Option.bind_eq_some_iff.mp hb
  obtain ⟨horigin, himports⟩ := Prod.mk.inj hsame
  have hmem : t ∈ turns := List.mem_of_head? ht
  have hok := ok_of_toOption hresult
  exact ⟨hfair, t, hmem, b, hok, horigin, himports,
    hit_as_compiled_afresh Machine.blank_fresh _ calls hfair t hmem b hok horigin⟩

end

end Shop

end ScriptCache
