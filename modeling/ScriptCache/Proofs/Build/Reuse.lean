import Mathlib
import ScriptCache.Compiler.Scripted
import ScriptCache.Proofs.Build.Calls
import ScriptCache.Proofs.Build.Inputs
import ScriptCache.Proofs.Object.Linking
import ScriptCache.Proofs.Store.Stored

/-! Builds that are reused.

A build that compiled its script and kept the object has filled the script's slot
(`stores_of_persisted`). While nobody touches the slot and its files may be read, every driver that
builds the script from the same inputs and with the same settings finds the object there, without a
call of its compiler and without a change to the disk, and so as often as it asks
(`persisted_build_reused`). -/
namespace ScriptCache

/-! ### Loading an object again -/

namespace Executable

variable {origin origin' : String} {resolvers resolvers' : ResolverChain}

/-- An object that was loaded loads wherever its imports are known, as the same program. -/
theorem loadImage_again {object : Bytes} {executable : Executable}
    (h : (loadImage object origin resolvers).1 = .ok executable)
    (hknown : ∀ name ∈ executable.imports.map Prod.fst,
      ∃ found, resolvers'.resolve name = some found) :
    ∃ again, (loadImage object origin' resolvers').1 = .ok again ∧
      again.text = executable.text ∧ again.exports = executable.exports := by
  obtain ⟨image, himage, hlinked⟩ := loadImage_eq_ok.mp h
  obtain ⟨hexports, imports, hbound, rfl⟩ := ObjectImage.link_eq_ok.mp hlinked
  rw [names_bindImports hbound] at hknown
  obtain ⟨imports', hbound'⟩ := bindImports_known origin' hknown
  have hagain := ObjectImage.link_eq_ok.mpr ⟨hexports, imports', hbound', rfl⟩
  exact ⟨_, loadImage_eq_ok.mpr ⟨image, himage, hagain⟩, rfl, rfl⟩

end Executable

namespace Driver

variable {σ τ : Type} {c : Compiler σ} {d : Driver σ} {r : BuildRequest} {p : BuildPlan}

/-! ### Builds like it -/

/-- Whether a driver builds a request from the same inputs and with the same settings as another
one, the modules in any order. -/
structure Alike (c : Compiler σ) (d : Driver σ) (c' : Compiler τ) (d' : Driver τ)
    (r : BuildRequest) : Prop where
  config : ∀ wrapper, Wrapper.parse r.bitcode = .ok wrapper →
    CompilerConfig.resolve wrapper d'.settings.compiler =
      CompilerConfig.resolve wrapper d.settings.compiler
  runtime : (c'.runtime d'.compiler).Perm (c.runtime d.compiler)

variable {c' : Compiler τ} {d' : Driver τ}

/-- Every driver has a plan for a request that one has a plan for, in the same slot. -/
theorem plan_elsewhere (h : plan c d r = .ok p) (c' : Compiler τ) (d' : Driver τ) :
    ∃ p', plan c' d' r = .ok p' ∧ p'.slot = p.slot := by
  unfold plan at h ⊢
  split at h
  · cases h
  split at h
  · cases h
  rename_i hfolder hbitcode
  rw [if_neg hfolder, if_neg hbitcode]
  cases hslot : Slot.of r.folder r.name with
  | error flaw =>
    rw [hslot] at h
    cases h
  | ok slot =>
    rw [hslot] at h
    cases hwrapper : Wrapper.parse r.bitcode with
    | error flaw =>
      rw [hwrapper] at h
      cases h
    | ok wrapper =>
      rw [hwrapper] at h
      cases h
      exact ⟨_, rfl, rfl⟩

/-- What is kept under a plan serves every plan like it. -/
theorem Alike.serves {p' : BuildPlan} (h : Alike c d c' d' r) (hp : Planned c d r p)
    (hp' : Planned c' d' r p') (object : Bytes) :
    (insertion p object).Serves p'.dependencies p'.signature := by
  have hwrapper : p'.wrapper = p.wrapper := Except.ok.inj (hp'.wrapper.symm.trans hp.wrapper)
  refine ⟨?_, ?_, ?_⟩
  · simp [insertion, Metadata.ofArtifact, Metadata.matchesArtifact]
  · show p.dependencies.entries.Perm p'.dependencies.entries
    rw [hp.dependencies, hp'.dependencies, entries_dependencies, entries_dependencies]
    exact (h.runtime.symm.cons _).map _
  · show p.config.signature = p'.config.signature
    rw [hp.config, hp'.config, hwrapper, h.config p.wrapper hp.wrapper]

section

variable [Wire.Memory]

/-! ### A build that is kept -/

/-- A build that compiled and kept its object has filled the script's slot with it. -/
theorem stores_of_persisted {m : Machine} {b : Built} (hplan : plan c d r = .ok p)
    (hclear : m.disk.Clear p.slot)
    (hcompile : ((d.reuse p).run m).2.disk.Clear p.slot → (compiledOn c d p m).disk.Clear p.slot)
    (hbuilt : ((build c d r).run m).1.1 = .ok b) (horigin : b.origin = .compiled)
    (hpersisted : b.persisted = true) :
    ∃ object folder, p.load object = .ok b.executable ∧
      ((build c d r).run m).2.disk.Stores p.slot folder object
        (insertion p object).metadata.encode := by
  have hcourse := course c d r m
  generalize (build c d r).run m = built at *
  cases hcourse with
  | refused | brokenOff | uncompiled => cases hbuilt
  | reused q m' b' hq hreuse =>
    cases hbuilt
    rw [(of_reuse (congrArg Prod.fst hreuse)).1] at horigin
    cases horigin
  | compiled q m' m'' object d' hq hreuse hcompiled =>
    rw [hplan] at hq
    cases hq
    have hlooked : ((d.reuse p).run m).2.disk.Clear p.slot := by
      have hlookup : (p.seek d.store).Harmless p.slot.folder := harmless_lookup d.store
      rw [(reuse_run d p m).2.disk]
      exact hlookup.clear hclear
    have hclear'' : m''.disk.Clear p.slot := by
      have hafter := hcompile hlooked
      rwa [compiledOn, hreuse, hcompiled] at hafter
    obtain ⟨hresult, hspoken⟩ := finish_run d'.store p object m''
    rw [hresult, resultOf] at hbuilt
    cases hload : p.load object with
    | error e =>
      rw [hload] at hbuilt
      cases hbuilt
    | ok executable =>
      rw [hload] at hbuilt
      cases hbuilt
      rcases hkept : (p.keep d'.store object).run m'' with ⟨e | ⟨⟩, kept⟩
      · rw [hkept] at hpersisted
        cases hpersisted
      · obtain ⟨folder, hstores⟩ := insert_stores hclear'' hkept
        refine ⟨object, folder, hload, ?_⟩
        rw [hspoken.disk, hkept]
        exact hstores

/-! ### Builds that find it -/

/-- A build finds what its slot stores, leaves its driver and the disk as they were, and leaves no
file open. -/
theorem build_stored {m : Machine} {folder : NodeId} {i : Insertion} {executable : Executable}
    (hplan : plan c d r = .ok p) (hslot : i.slot = p.slot)
    (hstores : m.disk.Stores i.slot folder i.artifact i.metadata.encode)
    (hpermits : i.slot.Permits m) (hfits : i.metadata.Fits)
    (hserves : i.Serves p.dependencies p.signature) (hfree : i.slot.Available m)
    (hforce : d.store.force = false) (hload : p.load i.artifact = .ok executable) :
    ((build c d r).run m).1 = (.ok ⟨executable, .cacheHit, true⟩, d) ∧
      m.Rested ((build c d r).run m).2 := by
  have hlookup := lookup_stored hstores hpermits hfits hserves hfree hforce
  rw [hslot] at hlookup
  obtain ⟨hhit, hrested⟩ := hlookup
  obtain ⟨hanswer, hspoken⟩ := reuse_run d p m
  rw [BuildPlan.seek, hhit, answerOf] at hanswer
  rcases hreuse : (d.reuse p).run m with ⟨answer, m'⟩
  rw [hreuse] at hanswer hspoken
  have hload' : (Executable.loadImage i.artifact p.slot.artifact p.resolvers).1 = .ok executable :=
    hload
  rw [hload'] at hanswer
  obtain rfl : answer = .ok (some ⟨executable, .cacheHit, true⟩) := hanswer
  have hbuild : (build c d r).run m = ((.ok ⟨executable, .cacheHit, true⟩, d), m') := by
    rw [build, hplan]
    simp only [Routine.run_bind, hreuse, Routine.run_pure]
  rw [hbuild]
  exact ⟨rfl, hrested.trans hspoken.rested⟩

/-- A driver and its machine after some builds of the same request. -/
def repeated (c : Compiler σ) (d : Driver σ) (r : BuildRequest) (m : Machine) :
    Nat → Driver σ × Machine
  | 0 => (d, m)
  | n + 1 =>
    let earlier := repeated c d r m n
    let built := (build c earlier.1 r).run earlier.2
    (built.1.2, built.2)

/-- If a build on a clear slot, which its compiler leaves clear, compiled its script and kept the
object, and the slot was not touched since and its files may be read, then every driver that takes
what is cached, builds the request alike and knows the object's imports finds it there, with the
same text and exports. It calls its compiler for nothing, and leaves the disk as it is; and so as
often as it asks. -/
theorem persisted_build_reused {m₁ m₂ : Machine} {b₁ : Built} {c' : Compiler τ}
    {d' : Driver (τ × List CompilerCall)} (hplan : plan c d r = .ok p)
    (hfits : InputsFit (inputs r.name r.bitcode (c.runtime d.compiler)))
    (hclear : m₁.disk.Clear p.slot)
    (hcompile : ((d.reuse p).run m₁).2.disk.Clear p.slot →
      (compiledOn c d p m₁).disk.Clear p.slot)
    (hbuilt : ((build c d r).run m₁).1.1 = .ok b₁) (horigin : b₁.origin = .compiled)
    (hpersisted : b₁.persisted = true)
    (huntouched : p.slot.Untouched ((build c d r).run m₁).2.disk m₂.disk)
    (hpermits : p.slot.Permits m₂) (hfree : p.slot.Available m₂)
    (halike : Alike c d c'.recording d' r)
    (hforce : d'.store.force = false)
    (hknown : ∀ name ∈ b₁.executable.imports.map Prod.fst, ∃ found,
      (d'.runtimeResolvers.followedBy d'.fallbackResolvers).resolve name = some found) :
    ∃ b₂ : Built, b₂.origin = .cacheHit ∧ b₂.persisted = true ∧
      b₂.executable.text = b₁.executable.text ∧ b₂.executable.exports = b₁.executable.exports ∧
      ∀ n, let before := repeated c'.recording d' r m₂ n
        let built := (build c'.recording before.1 r).run before.2
        built.1 = (.ok b₂, d') ∧ built.2.disk = m₂.disk := by
  obtain ⟨object, folder, hload, hstores⟩ :=
    stores_of_persisted hplan hclear hcompile hbuilt horigin hpersisted
  obtain ⟨p', hplan', hslot⟩ := plan_elsewhere hplan c'.recording d'
  have hp := planned hplan
  have hp' := planned hplan'
  rw [← hp'.resolvers] at hknown
  obtain ⟨again, hagain, htext, hexports⟩ := Executable.loadImage_again hload hknown
  -- Each build finds the slot as the first one did.
  have hbuild {m : Machine} (hrested : m₂.Rested m) :
      ((build c'.recording d' r).run m).1 = (.ok ⟨again, .cacheHit, true⟩, d') ∧
        m.Rested ((build c'.recording d' r).run m).2 :=
    build_stored (i := insertion p object) hplan' hslot.symm
      (hrested.disk ▸ hstores.untouched huntouched) (hpermits.rested hrested) (hp.fits hfits object)
      (halike.serves hp hp' object) (hfree.rested hrested) hforce hagain
  have hrun (n : Nat) : (repeated c'.recording d' r m₂ n).1 = d' ∧
      m₂.Rested (repeated c'.recording d' r m₂ n).2 := by
    induction n with
    | zero => exact ⟨rfl, .refl m₂⟩
    | succ n ih =>
      obtain ⟨hdriver, hrested⟩ := ih
      have hnext := hbuild hrested
      simp only [repeated, hdriver, hnext.1]
      exact ⟨trivial, hrested.trans hnext.2⟩
  refine ⟨⟨again, .cacheHit, true⟩, rfl, rfl, htext, hexports, fun n => ?_⟩
  obtain ⟨hdriver, hrested⟩ := hrun n
  have hnext := hbuild hrested
  simp only [hdriver]
  exact ⟨hnext.1, hnext.2.disk.trans hrested.disk⟩

end

/-! ### Two drivers -/

/-- No file is locked where none is open. -/
theorem unlocked_of_closed {m : Machine} (hclosed : ∀ file ∈ m.files, file = none) (node : NodeId) :
    m.Unlocked node := by
  intro handle file hfile
  rw [Machine.file?] at hfile
  cases hopen : m.files[handle]? with
  | none =>
    rw [hopen] at hfile
    cases hfile
  | some found =>
    rw [hopen, hclosed found (List.mem_of_getElem? hopen)] at hfile
    cases hfile

/-- The answers of a compiler that links some modules. -/
def answersLinking (runtime : List RuntimeModule) : Answers where
  runtime
  imports := ["f"]
  exports := [⟨"root", 0⟩]

/-- A driver with an address for the symbol that the objects import. -/
def driverKnowing (address : UInt64) (compiler : σ) : Driver σ where
  settings := {}
  store := {}
  runtimeResolvers := ⟨[(SymbolTable.ofList "table" [("f", address)]).resolver]⟩
  compiler

section

attribute [local instance] Wire.Memory.addressSpace

/-- A driver with its modules in another order and the symbol at another address is given what
the first one put into the cache. -/
theorem reused_with_modules_reordered :
    let core : RuntimeModule := ⟨"core", [1]⟩
    let math : RuntimeModule := ⟨"math", [2]⟩
    let request : BuildRequest := ⟨"c", "a", Utf8.encode "BC"⟩
    let d : Driver Scripted := driverKnowing 1 ⟨answersLinking [core, math], [], []⟩
    let d' : Driver (Scripted × List CompilerCall) :=
      driverKnowing 2 (⟨answersLinking [math, core], [], []⟩, [])
    let first := (build Scripted.compiler d request).run .blank
    ∃ b₁ b₂ : Built, first.1.1 = .ok b₁ ∧ b₁.origin = .compiled ∧ b₁.persisted = true ∧
      b₂.origin = .cacheHit ∧ b₂.executable.text = b₁.executable.text ∧
      b₂.executable.exports = b₁.executable.exports ∧
      ∀ n, let before := repeated Scripted.compiler.recording d' request first.2 n
        let built := (build Scripted.compiler.recording before.1 request).run before.2
        built.1 = (.ok b₂, d') ∧ built.2.disk = first.2.disk := by
  intro core math request d d' first
  obtain ⟨p, hplanned⟩ : ∃ p, (plan Scripted.compiler d request).toOption = some p :=
    Option.isSome_iff_exists.mp (by decide +kernel)
  have hplan := ok_of_toOption hplanned
  have hknown : first.1.1.toOption.map (fun b => (b.origin, b.persisted, b.executable.imports)) =
      some (.compiled, true, [("f", 1)]) := by decide +kernel
  have hclosed : ∀ file ∈ first.2.files, file = none := by decide +kernel
  obtain ⟨b₁, hresult, hsame⟩ := Option.map_eq_some_iff.mp hknown
  obtain ⟨horigin, hsame⟩ := Prod.mk.inj hsame
  obtain ⟨hpersisted, himports⟩ := Prod.mk.inj hsame
  have hbuilt : first.1.1 = .ok b₁ := ok_of_toOption hresult
  have hfolder : p.slot.folder = "c" := (planned hplan).folder
  have hname : p.slot.name = "a" := (planned hplan).name
  have hlock : p.slot.lock = "c/a.o.lock" := by
    rw [Slot.lock, Slot.artifact, hfolder, hname]
    decide +kernel
  have hclear : Machine.blank.disk.Clear p.slot :=
    Machine.Fresh.clear (hfolder ▸ Machine.blank_fresh)
  have hcompile (hlooked : ((d.reuse p).run .blank).2.disk.Clear p.slot) :
      (compiledOn Scripted.compiler d p .blank).disk.Clear p.slot := by
    rwa [compiledOn, disk_scripted]
  have hpermits : p.slot.Permits first.2 := by
    have hrefuses : first.2.refuses = Machine.blank.refuses :=
      congrArg Prod.snd (Routine.yields_run (build Scripted.compiler d request) .blank).setting
    constructor <;> rw [hrefuses] <;> rfl
  have hfree : p.slot.Available first.2 := by
    obtain ⟨⟨file, disk⟩, hopening⟩ : ∃ made,
        (first.2.openingLock "c/a.o.lock").toOption = some made :=
      Option.isSome_iff_exists.mp (by decide +kernel)
    intro _
    rw [hlock]
    exact ⟨⟨file, disk, ok_of_toOption hopening, unlocked_of_closed hclosed _⟩,
      fun node _ => unlocked_of_closed hclosed node⟩
  have halike : Alike Scripted.compiler d Scripted.compiler.recording d' request :=
    ⟨fun _ _ => rfl, .swap _ _ _⟩
  have hresolves : ∀ name ∈ b₁.executable.imports.map Prod.fst, ∃ found,
      (d'.runtimeResolvers.followedBy d'.fallbackResolvers).resolve name = some found := by
    rw [himports]
    intro name hname
    obtain rfl : name = "f" := by simpa using hname
    exact ⟨(2, "table"), by decide +kernel⟩
  obtain ⟨b₂, horigin₂, -, htext, hexports, hruns⟩ := persisted_build_reused hplan
    (by decide +kernel) hclear hcompile hbuilt horigin hpersisted (.refl _ _) hpermits hfree halike
    rfl hresolves
  exact ⟨b₁, b₂, hbuilt, horigin, hpersisted, horigin₂, htext, hexports, hruns⟩

end

end Driver

end ScriptCache
