import Mathlib
import ScriptCache.Compiler.Scripted
import ScriptCache.Proofs.Build.Calls
import ScriptCache.Proofs.Store.BreakOff

/-! Builds in spite of the cache.

Whatever is in the cache folder, whatever may be opened there and whoever holds locks, a script
that compiles to an object that loads is built: from the cache without a call of the compiler, or
with one compilation, whose object is then the answer whether it could be kept or not
(`built_in_spite_of_cache`). What stands in the way is an info file in the script's slot that breaks
its reader off, and such a file does (`broken_off_by_info`); or that it, or the artifact, has no end,
for then nobody is done reading it. -/
namespace ScriptCache.Driver

variable {σ : Type} {c : Compiler σ} {d : Driver (σ × List CompilerCall)} {r : BuildRequest}
  {p : BuildPlan} {m : Machine} {object : Bytes} {executable : Executable}

/-- A successful compilation calls the compiler for it once, after configuring it or not. -/
theorem Called.of_ok {d' : Driver (σ × List CompilerCall)} (h : Called d p (.ok object) d') :
    ∃ configured, (configured = [] ∨ configured = [CompilerCall.configure p.config true]) ∧
      d'.calls = .compile p.script (.ok object) :: configured ++ d.calls := by
  cases h with
  | compiled _ _ _ _ hcalls => exact ⟨[], .inl rfl, hcalls⟩
  | configured _ _ _ _ hcalls => exact ⟨[.configure p.config true], .inr rfl, hcalls⟩

section

variable [Wire.Memory]

theorem reuse_not_error (d : Driver σ) (hreadable : p.slot.Readable m) (e : BuildError) :
    ((d.reuse p).run m).1 ≠ .error e := by
  rw [(reuse_run d p m).1]
  cases hlooked : ((p.seek d.store).run m).1 with
  | brokenOff => exact absurd hlooked (lookup_not_brokenOff d.store hreadable)
  | miss | hit => nofun

theorem of_reuse_error {d : Driver σ} {e : BuildError} (h : ((d.reuse p).run m).1 = .error e) :
    e = .brokenOff := by
  rw [(reuse_run d p m).1] at h
  cases hlooked : ((p.seek d.store).run m).1 <;> rw [hlooked] at h <;> cases h
  rfl

/-- If a script compiles to an object that loads, a build fails only by breaking off, and it does
not where the script's slot can be read to the end and its info file does not break its reader off.
A build that succeeds has its answer from the cache without a call of the compiler, or it compiles
once, its executable is the object's, and it says truly whether the object was kept. -/
theorem built_in_spite_of_cache (hplan : plan c.recording d r = .ok p)
    (hcompile : ((compile c.recording d p).run ((d.reuse p).run m).2).1.1 = .ok object)
    (hload : p.load object = .ok executable) :
    let built := (build c.recording d r).run m
    (p.slot.Readable m → ∃ b, built.1.1 = .ok b) ∧ (∀ e, built.1.1 = .error e → e = .brokenOff) ∧
      ∀ b, built.1.1 = .ok b →
        b.origin = .cacheHit ∧ b.persisted = true ∧ built.1.2.calls = d.calls ∨
        b.origin = .compiled ∧ b.executable = executable ∧
          (b.persisted = true ↔
            ((p.keep d.store object).run (compiledOn c.recording d p m)).1 = .ok ()) ∧
          ∃ configured, (configured = [] ∨ configured = [CompilerCall.configure p.config true]) ∧
            built.1.2.calls = .compile p.script (.ok object) :: configured ++ d.calls := by
  have hcourse := course c.recording d r m
  generalize (build c.recording d r).run m = built at *
  cases hcourse with
  | refused flaw hflaw =>
    rw [hplan] at hflaw
    cases hflaw
  | brokenOff q m' e hq hreuse =>
    rw [hplan] at hq
    cases hq
    have hanswer : ((d.reuse p).run m).1 = .error e := by rw [hreuse]
    refine ⟨fun hreadable => absurd hanswer (reuse_not_error d hreadable e), ?_,
      fun b hb => by cases hb⟩
    rintro _ ⟨⟩
    exact of_reuse_error hanswer
  | reused q m' b hq hreuse =>
    rw [hplan] at hq
    cases hq
    obtain ⟨horigin, hpersisted⟩ := of_reuse (congrArg Prod.fst hreuse)
    refine ⟨fun _ => ⟨b, rfl⟩, fun e he => (by cases he), ?_⟩
    rintro _ ⟨⟩
    exact .inl ⟨horigin, hpersisted, rfl⟩
  | uncompiled q m' m'' e d' hq hreuse hcompiled =>
    rw [hplan] at hq
    cases hq
    rw [hreuse, hcompiled] at hcompile
    cases hcompile
  | compiled q m' m'' object' d' hq hreuse hcompiled =>
    rw [hplan] at hq
    cases hq
    have hcalled := compile_calls c d p m'
    have hkin := compile_kin c.recording d p m'
    have hkept : ((p.keep d'.store object).run m'').1 =
        ((p.keep d.store object).run (compiledOn c.recording d p m)).1 := by
      rw [compiledOn, hreuse, hcompiled, ← hkin.store, hcompiled]
    rw [hreuse, hcompiled] at hcompile
    cases hcompile
    rw [hcompiled] at hcalled
    have hresult : ((finish d'.store p object).run m'').1 =
        .ok ⟨executable, .compiled, ((p.keep d'.store object).run m'').1.isOk⟩ := by
      rw [(finish_run d'.store p object m'').1, resultOf, hload]
    rw [hkept] at hresult
    simp only [hresult]
    refine ⟨fun _ => ⟨_, rfl⟩, fun e he => (by cases he), ?_⟩
    rintro _ ⟨⟩
    refine .inr ⟨rfl, rfl, ?_, hcalled.of_ok⟩
    cases ((p.keep d.store object).run (compiledOn c.recording d p m)).1 <;>
      simp [Except.isOk, Except.toBool]

end

/-! ### Two info files -/

/-- A cache folder with an artifact and its info file. -/
def withInfo (info : Bytes) : Machine :=
  { Machine.blank with disk := {
      nodes := [.folder [("c", 1)], .folder [("a.o", 2), ("a.o.info", 3)], .file [], .file info],
      here := [Disk.root] } }

/-- A driver of a compiler whose objects hold the bitcode and nothing more. -/
def plainDriver : Driver (Scripted × List CompilerCall) where
  settings := {}
  store := {}
  compiler := (⟨{}, [], []⟩, [])

def plainRequest : BuildRequest := ⟨"c", "a", Utf8.encode "BC"⟩

def plainObject : Bytes :=
  (Scripted.image {} ⟨"a", plainRequest.bitcode, .bare plainRequest.bitcode⟩).encode

def plainExecutable : Executable := ⟨"c/a.o", plainRequest.bitcode, [], []⟩

section

attribute [local instance] Wire.Memory.addressSpace

theorem plain_compile : ∃ p, plan Scripted.compiler.recording plainDriver plainRequest = .ok p ∧
    (∀ m, ((compile Scripted.compiler.recording plainDriver p).run m).1.1 = .ok plainObject) ∧
    p.load plainObject = .ok plainExecutable := by
  have hknown : (plan Scripted.compiler.recording plainDriver plainRequest).toOption.map (fun p =>
      ((Scripted.image {} p.script).encode, p.load plainObject)) =
        some (plainObject, .ok plainExecutable) := by
    decide +kernel
  cases hplan : plan Scripted.compiler.recording plainDriver plainRequest with
  | error flaw =>
    rw [hplan] at hknown
    cases hknown
  | ok p =>
    rw [hplan] at hknown
    obtain ⟨hobject, hload⟩ := Prod.mk.inj (Option.some.inj hknown)
    refine ⟨p, rfl, fun m => ?_, hload⟩
    rw [← hobject]
    rfl

/-- An info file that was cut short does not keep a script from being built. -/
theorem built_beside_cut_info :
    let m := withInfo [0x15, 0x00]
    ∃ p, plan Scripted.compiler.recording plainDriver plainRequest = .ok p ∧
      ((compile Scripted.compiler.recording plainDriver p).run
        ((plainDriver.reuse p).run m).2).1.1 = .ok plainObject ∧
      p.load plainObject = .ok plainExecutable ∧ p.slot.Readable m ∧
      ∃ b, ((build Scripted.compiler.recording plainDriver plainRequest).run m).1.1 = .ok b := by
  intro m
  obtain ⟨p, hplan, hcompile, hload⟩ := plain_compile
  have hplanned := planned hplan
  have hreadable : p.slot.Readable m := by
    have hinfo : m.contents? p.slot.info = some (.ok [0x15, 0x00]) := by
      rw [Slot.info, Slot.artifact, hplanned.folder, hplanned.name]
      decide +kernel
    have hartifact : m.contents? p.slot.artifact = some (.ok []) := by
      rw [Slot.artifact, hplanned.folder, hplanned.name]
      decide +kernel
    refine ⟨by simp [hinfo], by simp [hartifact], fun raw hraw => ?_⟩
    rw [hinfo] at hraw
    cases hraw
    rintro ⟨flaw, hflaw, hbreaks⟩
    cases hflaw
    cases hbreaks
  exact ⟨p, hplan, hcompile _, hload, hreadable,
    (built_in_spite_of_cache hplan (hcompile _) hload).1 hreadable⟩

/-- An info file that announces a text beyond all memory does. -/
theorem broken_off_by_info :
    let m := withInfo [0x15, 0x00, 0x00, 0x00, 0x52, 0x53, 0x43, 0x49, 0x01, 0x29, 0xfa, 0x54,
      0xaa, 0x89, 0x03, 0x15, 0x85, 0xb3, 0x88, 0x08, 0x00, 0xe1, 0x34, 0xb4, 0x17, 0x01,
      0xfd, 0x00, 0x00, 0x00, 0x00, 0x00, 0x00, 0x00, 0x80, 0x61, 0x62]
    ∃ p, plan Scripted.compiler.recording plainDriver plainRequest = .ok p ∧
      ((compile Scripted.compiler.recording plainDriver p).run
        ((plainDriver.reuse p).run m).2).1.1 = .ok plainObject ∧
      p.load plainObject = .ok plainExecutable ∧
      ((build Scripted.compiler.recording plainDriver plainRequest).run m).1.1 =
        .error .brokenOff := by
  intro m
  obtain ⟨p, hplan, hcompile, hload⟩ := plain_compile
  exact ⟨p, hplan, hcompile _, hload, by decide +kernel⟩

end

end ScriptCache.Driver
