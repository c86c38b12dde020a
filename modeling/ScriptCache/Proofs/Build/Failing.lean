import Mathlib
import ScriptCache.Proofs.Bitcode.Grammar
import ScriptCache.Proofs.Build.Aftermath
import ScriptCache.Proofs.Build.Course
import ScriptCache.Proofs.Store.Lasting
import ScriptCache.Proofs.Store.Still

/-! Builds that fail.

A request is refused for what it is, before anything is done and whatever the compiler is
(`plan_refuses_iff`, `build_refused`). A build whose script does not compile has looked the script
up, which may have made the slot's lock file, and has called the compiler; so what stood on the disk
stands there still, and lookups answer as they did, if the compiler itself leaves the disk alone
(`failed_build_spares`). -/
namespace ScriptCache

open Routine

/-! ### Requests -/

/-- Whether a request is refused: its cache folder, its bitcode or its name is empty, the name would
lead out of the folder or is no text for a path, or the bitcode has a header that is not sound. -/
def BuildRequest.Invalid (r : BuildRequest) : Prop :=
  r.folder = "" ∨ r.bitcode = [] ∨
    (r.name = "" ∨ r.name = "." ∨ r.name = ".." ∨ '/' ∈ r.name.toList ∨ '\\' ∈ r.name.toList ∨
      '\x00' ∈ r.name.toList) ∨
    Wrapper.Marked r.bitcode ∧ ¬ Wrapper.Header r.bitcode

theorem NameFlaw.of?_isSome_iff (name : String) : (∃ flaw, NameFlaw.of? name = some flaw) ↔
    name = "" ∨ name = "." ∨ name = ".." ∨ '/' ∈ name.toList ∨ '\\' ∈ name.toList ∨
      '\x00' ∈ name.toList := by
  rw [← Option.isSome_iff_exists, NameFlaw.of?]
  split_ifs <;> grind

theorem Slot.of_refuses_iff (folder name : String) :
    (∃ flaw, Slot.of folder name = .error flaw) ↔ ∃ flaw, NameFlaw.of? name = some flaw := by
  rw [Slot.of]
  split
  · rename_i hnone
    simp [hnone]
  · rename_i flaw hflaw
    simp [hflaw]

namespace Driver

variable {σ : Type} {c : Compiler σ} {d d' : Driver σ} {r : BuildRequest} {p : BuildPlan}
  {m m' : Machine}

/-- A request is refused exactly if it is invalid. -/
theorem plan_refuses_iff : (∃ flaw, plan c d r = .error flaw) ↔ r.Invalid := by
  rw [BuildRequest.Invalid, plan, ← NameFlaw.of?_isSome_iff, ← Slot.of_refuses_iff r.folder,
    ← Wrapper.parse_refuses_iff]
  by_cases hfolder : r.folder = ""
  · simp [hfolder]
  rw [if_neg (by simpa using hfolder)]
  by_cases hbitcode : r.bitcode = []
  · simp [hbitcode]
  rw [if_neg (by simpa using hbitcode)]
  cases Slot.of r.folder r.name with
  | error flaw => simp
  | ok slot => cases Wrapper.parse r.bitcode <;> simp [hfolder, hbitcode]

/-- Why a request is refused is nothing to do with the compiler. -/
theorem plan_error {flaw : RequestFlaw} (h : plan c d r = .error flaw) (c' : Compiler σ) :
    plan c' d r = .error flaw := by
  rw [plan] at h ⊢
  split_ifs at h ⊢
  · exact h
  · exact h
  · cases hslot : Slot.of r.folder r.name with
    | error flaw' =>
      rw [hslot] at h
      exact h
    | ok slot =>
      rw [hslot] at h
      cases hwrapper : Wrapper.parse r.bitcode with
      | error flaw' =>
        rw [hwrapper] at h
        exact h
      | ok wrapper =>
        rw [hwrapper] at h
        cases h

section

variable [Wire.Memory]

/-- An invalid request is refused without doing anything, and without a call of the compiler. -/
theorem build_refused (h : r.Invalid) (c : Compiler σ) (d : Driver σ) : ∃ flaw : RequestFlaw,
    ∀ c' : Compiler σ, build c' d r = pure (.error (.invalidInput flaw.message), d) := by
  obtain ⟨flaw, hflaw⟩ := (plan_refuses_iff (c := c) (d := d)).mpr h
  refine ⟨flaw, fun c' => ?_⟩
  rw [build, plan_error hflaw c']

/-! ### Endings -/

theorem reuse_error {e : BuildError} (h : (d.reuse p).Yields m (.error e) m') : e = .brokenOff := by
  obtain ⟨outcome, looked, -, hrest⟩ := yields_bind.mp h
  cases outcome with
  | brokenOff =>
    obtain ⟨heq, -⟩ := hrest
    cases heq
    rfl
  | miss reason =>
    obtain ⟨heq, -⟩ := hrest
    cases heq
  | hit artifact =>
    obtain ⟨loaded, between, -, hsaid⟩ := yields_bind.mp hrest
    cases loaded with
    | ok executable | error e' =>
      obtain ⟨_, _, -, heq, -⟩ := yields_bind.mp hsaid
      cases heq

theorem finish_error {store : Store} {object : Bytes} {e : BuildError}
    (h : (finish store p object).Yields m (.error e) m') :
    ∃ e', e = .load p.slot.artifact e' := by
  obtain ⟨persisted, kept, -, hrest⟩ := yields_bind.mp h
  obtain ⟨loaded, between, -, hsaid⟩ := yields_bind.mp hrest
  cases loaded with
  | ok executable =>
    obtain ⟨_, _, -, heq, -⟩ := yields_bind.mp hsaid
    cases heq
  | error e' =>
    obtain ⟨_, _, -, heq, -⟩ := yields_bind.mp hsaid
    cases heq
    exact ⟨e', rfl⟩

/-- The errors of builds, each with how far the build came. -/
inductive Failing (c : Compiler σ) (d : Driver σ) (r : BuildRequest) (m : Machine) :
    BuildError → Driver σ → Machine → Prop
  | refused (flaw : RequestFlaw) : plan c d r = .error flaw →
    Failing c d r m (.invalidInput flaw.message) d m
  | brokenOff (p : BuildPlan) (m' : Machine) : plan c d r = .ok p →
    (d.reuse p).Yields m (.error .brokenOff) m' → Failing c d r m .brokenOff d m'
  | uncompiled (p : BuildPlan) (looked m' : Machine) (e : CompileError) (d' : Driver σ) :
    plan c d r = .ok p → (d.reuse p).Yields m (.ok none) looked →
    (compile c d p).Yields looked (.error e, d') m' →
    Failing c d r m (.compile p.slot.name e) d' m'
  | unloaded (p : BuildPlan) (e : LoadError) (d' : Driver σ) (m' : Machine) :
    plan c d r = .ok p → Failing c d r m (.load p.slot.artifact e) d' m'

theorem failing {e : BuildError} (h : (build c d r).Yields m (.error e, d') m') :
    Failing c d r m e d' m' := by
  rw [build] at h
  cases hplan : plan c d r with
  | error flaw =>
    rw [hplan] at h
    obtain ⟨heq, rfl⟩ := h
    cases heq
    exact .refused flaw hplan
  | ok p =>
    rw [hplan] at h
    obtain ⟨answer, looked, hreuse, hrest⟩ := yields_bind.mp h
    rcases answer with e' | (_ | built)
    · obtain ⟨heq, rfl⟩ := hrest
      cases heq
      cases reuse_error hreuse
      exact .brokenOff p m' hplan hreuse
    · obtain ⟨⟨compiled, d''⟩, called, hcompile, hrest⟩ := yields_bind.mp hrest
      cases compiled with
      | error e' =>
        obtain ⟨heq, rfl⟩ := hrest
        cases heq
        exact .uncompiled p looked m' e' _ hplan hreuse hcompile
      | ok object =>
        obtain ⟨result, finished, hfinish, heq, rfl⟩ := yields_bind.mp hrest
        cases heq
        obtain ⟨e', rfl⟩ := finish_error hfinish
        exact .unloaded p e' _ m' hplan
    · obtain ⟨heq, -⟩ := hrest
      cases heq

/-- A build is refused exactly if its request is invalid. -/
theorem refused_iff {result : Except BuildError Built}
    (h : (build c d r).Yields m (result, d') m') :
    (∃ reason, result = .error (.invalidInput reason)) ↔ r.Invalid := by
  constructor
  · rintro ⟨reason, rfl⟩
    cases failing h with
    | refused flaw hplan => exact plan_refuses_iff.mp ⟨flaw, hplan⟩
  · intro hinvalid
    obtain ⟨flaw, hbuild⟩ := build_refused hinvalid c d
    rw [hbuild c] at h
    obtain ⟨heq, -⟩ := h
    cases heq
    exact ⟨flaw.message, rfl⟩

end

end Driver

/-! ### What a compiler does -/

/-- What a call of a compiler can make of a disk. -/
def Compiler.Turns {σ : Type} (c : Compiler σ) (launcher : Launcher) (d d' : Disk) : Prop :=
  ∃ script s before reply after, before.launcher = launcher ∧ before.disk = d ∧ after.disk = d' ∧
    (c.compile script s).Yields before reply after

/-- Whether a compiler leaves disks alone, and open files. -/
structure Compiler.Discreet {σ : Type} (c : Compiler σ) (launcher : Launcher) : Prop where
  closes : c.Closes
  disk : ∀ {d d'}, c.Turns launcher d d' → d' = d

theorem Scripted.discreet (launcher : Launcher) : Scripted.compiler.Discreet launcher where
  closes := Scripted.closes
  disk := by
    rintro d d' ⟨script, s, before, reply, after, -, rfl, rfl, -, rfl⟩
    rfl

/-- A compiler that is a program leaves disks alone if the program does. -/
theorem External.discreet {launcher : Launcher}
    (h : ∀ program args input disk, (launcher program args input disk).2 = disk) :
    External.compiler.Discreet launcher where
  closes := External.closes
  disk := by
    rintro d d' ⟨script, e, before, reply, after, hlauncher, rfl, rfl, hyields⟩
    change (External.compile script e).Yields before reply after at hyields
    rw [External.compile] at hyields
    cases hconfig : e.config with
    | none =>
      rw [hconfig] at hyields
      obtain ⟨-, rfl⟩ := hyields
      rfl
    | some config =>
      rw [hconfig] at hyields
      obtain ⟨answer, launched, hlaunch, hrest⟩ := yields_bind.mp hyields
      have hdone : launched.disk = before.disk := by
        have hends := (yields_perform.mp hlaunch).done_or_failed fun _ _ h => by cases h
        rcases hends with ⟨-, rfl⟩ | ⟨-, rfl⟩
        · have hsame := h e.program (e.commandLine config) script.bitcode before.disk
          simp only [Machine.perform, Machine.launch, hlauncher]
          split
          · exact hsame
          · rw [Machine.disk_pass]
            exact hsame
        · rfl
      cases answer with
      | error source =>
        obtain ⟨-, rfl⟩ := hrest
        exact hdone
      | ok finished =>
        obtain ⟨-, rfl⟩ := hrest
        exact hdone

/-! ### What a failed build leaves -/

/-- Whether all that a disk had is on another, and at most the slot's lock file is new: no artifact
is, and at other paths only what is that file. -/
structure Slot.Spared (slot : Slot) (d d' : Disk) : Prop where
  preserved : d.Preserves d'
  gains : d.GainsFile slot.lock d'
  artifact : d'.exists? slot.artifact = d.exists? slot.artifact

/-- Whether lookups answer as they would when time alone had passed: those of a slot as a whole,
those of all others where they hit. -/
def Machine.AnswersLast [Wire.Memory] (slot : Slot) (m m' : Machine) : Prop :=
  ∃ base, m.Aged base ∧ m'.clock = base.clock ∧
    (∀ (store : Store) (dependencies : DependencyTable) (signature : Bytes),
      ((store.lookup slot dependencies signature).run m').1 =
        ((store.lookup slot dependencies signature).run base).1) ∧
    ∀ (store : Store) (other : Slot) (dependencies : DependencyTable) (signature : Bytes)
      (hit : CachedArtifact), ((store.lookup other dependencies signature).run base).1 = .hit hit →
      ((store.lookup other dependencies signature).run m').1 = .hit hit

namespace Driver

variable {σ : Type} {c : Compiler σ} {d d' : Driver σ} {r : BuildRequest} {p : BuildPlan}
  {m m' : Machine}

/-- Compiling does to the disk what the compiler does, if that is called. -/
theorem compile_disk {result : Except CompileError Bytes × Driver σ}
    (h : (compile c d p).Yields m result m') :
    m'.disk = m.disk ∨ c.Turns m.launcher m.disk m'.disk := by
  rw [compile] at h
  generalize configure c d p.config = started at h
  obtain ⟨configured, d', events⟩ := started
  obtain ⟨_, said, hsaid, hrest⟩ := yields_bind.mp h
  have hdisk : said.disk = m.disk := (still_sayAll events).disk hsaid
  cases configured with
  | error e =>
    exact .inl ((((still_say _).bind fun _ => takes_pure _).disk hrest).trans hdisk)
  | ok u =>
    obtain ⟨reply, called, hcall, hrest⟩ := yields_bind.mp hrest
    have hcalled : m'.disk = called.disk :=
      ((still_sayAll _).bind fun _ => (still_say _).bind fun _ => takes_pure _).disk hrest
    exact .inr ⟨p.script, d'.compiler, said, reply, called, congrArg Prod.fst hsaid.setting, hdisk,
      hcalled.symm, hcall⟩

section

variable [Wire.Memory]

/-- Looking a script up makes at most the slot's lock file, and that only beside an artifact. -/
theorem reuse_disk {answer : Except BuildError (Option Built)}
    (h : (d.reuse p).Yields m answer m') : m.MadeLock p.slot.lock m'.disk ∧
      (m'.disk = m.disk ∨ m.disk.exists? p.slot.artifact = true) := by
  obtain ⟨outcome, looked, hlookup, hrest⟩ := yields_bind.mp h
  have hstill : m'.disk = looked.disk := by
    cases outcome with
    | brokenOff | miss =>
      obtain ⟨-, rfl⟩ := hrest
      rfl
    | hit artifact =>
      obtain ⟨loaded, between, hload, hsaid⟩ := yields_bind.mp hrest
      have hbetween : between.disk = looked.disk :=
        ((still_sayAll _).bind fun _ => takes_pure _).disk hload
      rw [← hbetween]
      cases loaded <;> exact ((still_say _).bind fun _ => takes_pure _).disk hsaid
  obtain ⟨hmade, hsame⟩ := lookup_disk hlookup
  rw [hstill]
  exact ⟨hmade, hsame.imp_right And.right⟩

theorem spared_of_reuse {answer : Except BuildError (Option Built)}
    (h : (d.reuse p).Yields m answer m') : p.slot.Spared m.disk m'.disk := by
  obtain ⟨hmade, hthere⟩ := reuse_disk h
  have hensured := hmade.ensured
  refine ⟨hensured.preserves, hensured.gains, ?_⟩
  rcases hthere with hsame | hexists
  · rw [hsame]
  · rw [hexists]
    rcases hensured.same_or_added with hsame | hadded
    · rw [hsame, hexists]
    · exact Disk.exists?_of_added hadded hexists

theorem answersLast_of_reuse {looked : Machine} {answer : Except BuildError (Option Built)}
    (hkeeps : ∃ base, m.Aged base ∧ base.InStep m') (hreuse : (d.reuse p).Yields m answer looked)
    (hdisk : m'.disk = looked.disk) (hcloses : m.ClosesOpened) (hanchored : m.Anchored) :
    m.AnswersLast p.slot m' := by
  obtain ⟨base, haged, hstep⟩ := hkeeps
  obtain ⟨hmade, -⟩ := reuse_disk hreuse
  have hspared := spared_of_reuse hreuse
  rw [← hdisk] at hmade hspared
  rw [← haged.disk] at hspared
  have hlock : base.MadeLock p.slot.lock m'.disk := hmade.of_same haged.refuses haged.disk
  exact ⟨base, haged, hstep.clock,
    fun store dependencies signature =>
      lookup_again hstep (haged.closesOpened hcloses) hlock hspared.artifact,
    fun store other dependencies signature hit =>
      hit_again hstep (haged.closesOpened hcloses) (haged.anchored hanchored)
        hlock.ensured.same_or_added⟩

/-- What failed builds leave. A build is refused exactly if its request is invalid, and then it does
nothing, whatever the compiler is. A build whose script does not compile leaves what was on the
disk, with at most the slot's lock file made, and what the compiler made of that; and if the
compiler leaves the disk alone, lookups answer as before. -/
theorem failed_build_spares {result : Except BuildError Built}
    (h : (build c d r).Yields m (result, d') m') :
    ((∃ reason, result = .error (.invalidInput reason)) ↔ r.Invalid) ∧
      (r.Invalid → m' = m ∧ d' = d ∧ ∀ c' : Compiler σ, build c' d r = pure (result, d)) ∧
      ∀ name e, result = .error (.compile name e) → ∃ slot disk,
        slot.folder = r.folder ∧ slot.name = r.name ∧ slot.Spared m.disk disk ∧
          (m'.disk = disk ∨ c.Turns m.launcher disk m'.disk) ∧
          (c.Discreet m.launcher → m'.disk = disk ∧
            (m.ClosesOpened → m.Anchored → m.AnswersLast slot m')) := by
  refine ⟨refused_iff h, fun hinvalid => ?_, ?_⟩
  · obtain ⟨flaw, hbuild⟩ := build_refused hinvalid c d
    rw [hbuild c] at h
    obtain ⟨heq, rfl⟩ := h
    cases heq
    exact ⟨rfl, rfl, hbuild⟩
  · rintro name e rfl
    cases failing h with
    | uncompiled p looked _ _ _ hplan hreuse hcompile =>
      have hplanned := planned hplan
      have hlauncher : looked.launcher = m.launcher := congrArg Prod.fst hreuse.setting
      have hturns : m'.disk = looked.disk ∨ c.Turns m.launcher looked.disk m'.disk :=
        hlauncher ▸ compile_disk hcompile
      refine ⟨p.slot, looked.disk, hplanned.folder, hplanned.name, spared_of_reuse hreuse, hturns,
        fun hdiscreet => ?_⟩
      have hdisk : m'.disk = looked.disk := hturns.elim id hdiscreet.disk
      exact ⟨hdisk, answersLast_of_reuse ((keeps_build hdiscreet.closes d r).inStep h) hreuse hdisk⟩

end

/-- A driver whose compiler compiles nothing. -/
def balking : Driver Scripted where
  settings := {}
  store := {}
  compiler := { answers := { failCompile := some .emptyOutput } }

section

attribute [local instance] Wire.Memory.addressSpace

/-- A build that finds its slot stale and does not compile makes the slot's lock file, and leaves
the entry to those who look it up. A build of a header that breaks off does nothing. -/
theorem failed_build_spares_stale :
    let slot : Slot := ⟨"c", "a", by decide⟩
    let m := Machine.withSlot [1, 2] (Metadata.ofArtifact ⟨[]⟩ [7] [1, 2]).encode
    let built := (build Scripted.compiler balking ⟨"c", "a", Utf8.encode "BC"⟩).run m
    let broken : BuildRequest := ⟨"c", "a", [0xDE, 0xC0, 0x17, 0x0B]⟩
    built.1.1 = .error (.compile "a" .emptyOutput) ∧ m.ClosesOpened ∧ m.Anchored ∧
      m.disk.exists? slot.lock = false ∧ built.2.disk.exists? slot.lock = true ∧
      slot.Spared m.disk built.2.disk ∧ m.AnswersLast slot built.2 ∧
      broken.Invalid ∧ ((build Scripted.compiler balking broken).run m).2 = m := by
  intro slot m built broken
  have hresult : built.1.1 = .error (.compile "a" .emptyOutput) := by decide +kernel
  have hmade : built.2.disk.exists? slot.lock = true := by decide +kernel
  have hyields : (build Scripted.compiler balking ⟨"c", "a", Utf8.encode "BC"⟩).Yields m built.1
      built.2 := yields_run _ m
  have hcloses : m.ClosesOpened := by
    intro release hrelease
    cases hrelease
  have hanchored : m.Anchored := by
    simp [Machine.Anchored, Machine.file?, m, Machine.withSlot, Machine.blank]
  have hbroken : broken.Invalid :=
    .inr (.inr (.inr ⟨⟨by decide, by decide⟩, fun h => absurd h.whole (by decide)⟩))
  have hnothing : ((build Scripted.compiler balking broken).run m).2 = m :=
    ((failed_build_spares (yields_run _ m)).2.1 hbroken).1
  -- What remains is said of any end of the build.
  clear_value built
  obtain ⟨⟨result, d'⟩, m'⟩ := built
  obtain ⟨slot', disk, hfolder, hname, hspared, -, hdiscreet⟩ :=
    (failed_build_spares hyields).2.2 "a" .emptyOutput hresult
  obtain ⟨rfl, hlasts⟩ := hdiscreet (Scripted.discreet m.launcher)
  obtain rfl : slot' = slot := by
    cases slot'
    cases hfolder
    cases hname
    rfl
  exact ⟨hresult, hcloses, hanchored, by decide +kernel, hmade, hspared, hlasts hcloses hanchored,
    hbroken, hnothing⟩

/-- Where the lock file is a link to a name that is free, a build that does not compile makes a file
of that name, be it the info file's; and a compiler that is a program may do what it likes before
it fails. -/
theorem failed_compile_makes_info :
    let m : Machine := { Machine.blank with disk := {
      nodes := [.folder [("c", 1)], .folder [("a.o", 2), ("a.o.lock", 3)], .file [],
        .link "a.o.info"]
      here := [Disk.root] } }
    let built := (build Scripted.compiler balking ⟨"c", "a", Utf8.encode "BC"⟩).run m
    let overwriting : Launcher := fun _ _ _ disk =>
      (.ok { code := some 1, output := [], errors := [], unread := 0 }, disk.put 2 (.file [1]))
    let spoiling : Driver External :=
      { settings := {}, store := {}, compiler := { program := "sh" } }
    let spoilt := (build External.compiler spoiling ⟨"c", "a", Utf8.encode "BC"⟩).run
      { m with launcher := overwriting }
    built.1.1 = .error (.compile "a" .emptyOutput) ∧
      m.disk.sight false "c/a.o.info" = none ∧
      built.2.disk.sight false "c/a.o.info" = some (.file []) ∧
      spoilt.1.1 = .error (.compile "a" (.failed (some 1) "")) ∧
      m.disk.sight false "c/a.o" = some (.file []) ∧
      spoilt.2.disk.sight false "c/a.o" = some (.file [1]) := by
  decide +kernel

end

end Driver

end ScriptCache
