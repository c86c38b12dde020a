import Mathlib
import ScriptCache.Proofs.Build.Course
import ScriptCache.Proofs.Dependency.Multiset
import ScriptCache.Proofs.Store.Ledger

/-! What the dependency table of a build tells of its inputs, and the signature of its settings.

The signature writes down all settings and so tells them apart (`signature_injective`).

The inputs of a build are its script, under the resource's name, and the runtime modules; the
table has the name and the digest of each. Where digests tell the contents at hand apart, two
builds have the same table just if they have the same inputs, in whatever order
(`same_iff_inputs`). Nothing in a table says which of its entries is the script, so the script
and a runtime module of the resource's own name may have changed places, and that is all that may
have changed (`same_dependencies_iff`). -/
namespace ScriptCache

/-! ### Settings -/

namespace CompilerConfig

/-- Equal signatures are signatures of equal settings. -/
theorem signature_injective : Function.Injective signature := by
  intro a b h
  simp only [signature, List.cons.injEq, true_and] at h
  obtain ⟨hlevel, hprecision, hversion⟩ := h
  have hprecision : a.precision = b.precision := by
    cases ha : a.precision <;> cases hb : b.precision <;> rw [ha, hb] at hprecision <;>
      first | rfl | cases hprecision
  have hnumber := congrArg Bytes.toNat hversion
  rw [Bytes.toNat_littleEndian a.version.toNat_lt, Bytes.toNat_littleEndian b.version.toNat_lt] at hnumber
  cases a
  cases b
  cases hlevel
  cases hprecision
  cases UInt32.toNat_inj.mp hnumber
  rfl

theorem length_signature (c : CompilerConfig) : c.signature.length = 7 := by
  simp [signature]

end CompilerConfig

/-! ### Inputs -/

/-- Whether digests tell some contents apart. -/
def Digest.Tells (contents : List Bytes) : Prop :=
  ∀ a ∈ contents, ∀ b ∈ contents, Digest.ofBytes a = Digest.ofBytes b → a = b

instance (contents : List Bytes) : Decidable (Digest.Tells contents) :=
  inferInstanceAs (Decidable (∀ a ∈ contents, ∀ b ∈ contents, _))

/-- What a dependency table has of an input. -/
def RuntimeModule.dependency (m : RuntimeModule) : Dependency :=
  ⟨m.name, m.digest⟩

namespace Driver

/-- The inputs of a build: the script, then the runtime modules. -/
def inputs (name : String) (bitcode : Bytes) (runtime : List RuntimeModule) : List RuntimeModule :=
  ⟨name, bitcode⟩ :: runtime

/-- The contents of the inputs of two builds. -/
def contents (bitcode bitcode' : Bytes) (runtime runtime' : List RuntimeModule) : List Bytes :=
  (bitcode :: runtime.map (·.bitcode)) ++ bitcode' :: runtime'.map (·.bitcode)

variable {name : String} {bitcode bitcode' : Bytes} {runtime runtime' : List RuntimeModule}

theorem entries_dependencies (name : String) (bitcode : Bytes) (runtime : List RuntimeModule) :
    (dependencies name bitcode runtime).entries =
      (inputs name bitcode runtime).map RuntimeModule.dependency := by
  have hpushed : dependencies name bitcode runtime = DependencyTable.pushAll
      (DependencyTable.push {} name (.ofBytes bitcode)) (runtime.map RuntimeModule.dependency) := by
    rw [DependencyTable.pushAll, List.foldl_map]
    rfl
  rw [hpushed, DependencyTable.entries_pushAll]
  rfl

section

variable [Wire.Memory]

/-- Whether inputs are of a number, and their names of lengths, that memory holds. -/
structure InputsFit (inputs : List RuntimeModule) : Prop where
  names : ∀ m ∈ inputs, (Utf8.encode m.name).length < Wire.Memory.bound
  number : inputs.length < UInt64.size

instance (inputs : List RuntimeModule) : Decidable (InputsFit inputs) :=
  decidable_of_iff ((∀ m ∈ inputs, (Utf8.encode m.name).length < Wire.Memory.bound) ∧
    inputs.length < UInt64.size) ⟨fun ⟨hn, hl⟩ => ⟨hn, hl⟩, fun h => ⟨h.names, h.number⟩⟩

theorem fits_ofArtifact (h : InputsFit (inputs name bitcode runtime)) (config : CompilerConfig)
    (artifact : Bytes) :
    (Metadata.ofArtifact (dependencies name bitcode runtime) config.signature artifact).Fits where
  names d hd := by
    have hd : d ∈ (dependencies name bitcode runtime).entries := hd
    rw [entries_dependencies] at hd
    obtain ⟨m, hm, rfl⟩ := List.mem_map.mp hd
    exact h.names m hm
  entries := by
    show (dependencies name bitcode runtime).entries.length < UInt64.size
    rw [entries_dependencies, List.length_map]
    exact h.number
  signature := by
    show config.signature.length < UInt64.size
    rw [config.length_signature]
    decide

/-- The insertion of an object under a plan. -/
def insertion (p : BuildPlan) (object : Bytes) : Insertion :=
  ⟨0, p.slot, object, .ofArtifact p.dependencies p.signature object⟩

theorem Planned.fits {σ : Type} {c : Compiler σ} {d : Driver σ} {r : BuildRequest} {p : BuildPlan}
    (h : Planned c d r p) (hfits : InputsFit (inputs r.name r.bitcode (c.runtime d.compiler)))
    (object : Bytes) : (insertion p object).metadata.Fits := by
  show (Metadata.ofArtifact p.dependencies p.config.signature object).Fits
  rw [h.dependencies]
  exact fits_ofArtifact hfits p.config object

end

/-- A reordering of values that a function tells apart is one of the things themselves. -/
theorem perm_of_map_perm {α β : Type} {f : α → β} {l l' : List α}
    (hf : ∀ a ∈ l, ∀ b ∈ l', f a = f b → a = b) (h : (l.map f).Perm (l'.map f)) : l.Perm l' := by
  classical
  induction l generalizing l' with
  | nil =>
    obtain rfl : l' = [] := List.map_eq_nil_iff.mp h.symm.eq_nil
    exact .refl _
  | cons a l ih =>
    obtain ⟨b, hb, hab⟩ := List.mem_map.mp (h.subset List.mem_cons_self)
    obtain rfl : a = b := hf a List.mem_cons_self b hb hab.symm
    have hsplit : l'.Perm (a :: l'.erase a) := List.perm_cons_erase hb
    have hrest : (l.map f).Perm ((l'.erase a).map f) := (h.trans (hsplit.map f)).cons_inv
    have hl := ih (fun x hx y hy => hf x (List.mem_cons_of_mem a hx) y (List.mem_of_mem_erase hy)) hrest
    exact (hl.cons a).trans hsplit.symm

theorem same_iff_inputs (htells : Digest.Tells (contents bitcode bitcode' runtime runtime')) :
    (dependencies name bitcode runtime).same (dependencies name bitcode' runtime') = true ↔
      (inputs name bitcode runtime).Perm (inputs name bitcode' runtime') := by
  rw [DependencyTable.same_iff_perm, entries_dependencies, entries_dependencies]
  refine ⟨perm_of_map_perm fun m hm m' hm' heq => ?_, fun h => h.map _⟩
  have hname : m.name = m'.name := congrArg Dependency.name heq
  have hdigest : Digest.ofBytes m.bitcode = Digest.ofBytes m'.bitcode :=
    congrArg Dependency.digest heq
  have hmem : m.bitcode ∈ contents bitcode bitcode' runtime runtime' :=
    List.mem_append_left _ (List.mem_map_of_mem hm)
  have hmem' : m'.bitcode ∈ contents bitcode bitcode' runtime runtime' :=
    List.mem_append_right _ (List.mem_map_of_mem hm')
  have hbitcode := htells m.bitcode hmem m'.bitcode hmem' hdigest
  cases m
  cases m'
  cases hname
  cases hbitcode
  rfl

/-- Two builds of a resource have the same table just if they have the same script and the same
runtime modules, or if each has the other's script as a runtime module of the resource's name, and
the other modules are the same. -/
theorem same_dependencies_iff
    (htells : Digest.Tells (contents bitcode bitcode' runtime runtime')) :
    (dependencies name bitcode runtime).same (dependencies name bitcode' runtime') = true ↔
      bitcode = bitcode' ∧ runtime.Perm runtime' ∨
        bitcode ≠ bitcode' ∧ ∃ others, runtime.Perm (⟨name, bitcode'⟩ :: others) ∧
          runtime'.Perm (⟨name, bitcode⟩ :: others) := by
  rw [same_iff_inputs htells, inputs, inputs]
  constructor
  · intro h
    by_cases hbitcode : bitcode = bitcode'
    · subst hbitcode
      exact .inl ⟨rfl, h.cons_inv⟩
    · have hne : (⟨name, bitcode⟩ : RuntimeModule) ≠ ⟨name, bitcode'⟩ := fun heq =>
        hbitcode (congrArg RuntimeModule.bitcode heq)
      have hmem : (⟨name, bitcode⟩ : RuntimeModule) ∈ runtime' :=
        (List.mem_cons.mp (h.subset List.mem_cons_self)).resolve_left hne
      have hothers := List.perm_cons_erase hmem
      refine .inr ⟨hbitcode, runtime'.erase ⟨name, bitcode⟩, ?_, hothers⟩
      have hswap := h.trans ((hothers.cons ⟨name, bitcode'⟩).trans (List.Perm.swap _ _ _))
      exact hswap.cons_inv
  · rintro (⟨rfl, hruntime⟩ | ⟨-, others, hruntime, hruntime'⟩)
    · exact hruntime.cons _
    · have hswap := (hruntime.cons ⟨name, bitcode⟩).trans (List.Perm.swap _ _ _)
      exact hswap.trans (hruntime'.symm.cons _)

/-- Runtime modules in another order leave the table the same. -/
theorem same_dependencies_of_reordered :
    let script : Bytes := [0x42, 0x43]
    let core : RuntimeModule := ⟨"core", [1]⟩
    let math : RuntimeModule := ⟨"math", [2]⟩
    Digest.Tells (contents script script [core, math] [math, core]) ∧
      (dependencies "a" script [core, math]).same (dependencies "a" script [math, core]) = true := by
  intro script core math
  have htells : Digest.Tells (contents script script [core, math] [math, core]) := by
    decide +kernel
  exact ⟨htells, (same_dependencies_iff htells).mpr (.inl ⟨rfl, .swap _ _ _⟩)⟩

/-- A script and a runtime module of the resource's name that change places leave the table the
same. -/
theorem same_dependencies_of_swapped :
    let one : Bytes := Utf8.encode "BC one"
    let two : Bytes := Utf8.encode "BC two"
    Digest.Tells (contents one two [⟨"foo", two⟩] [⟨"foo", one⟩]) ∧
      (dependencies "foo" one [⟨"foo", two⟩]).same (dependencies "foo" two [⟨"foo", one⟩]) = true ∧
      one ≠ two ∧ ¬ [RuntimeModule.mk "foo" two].Perm [RuntimeModule.mk "foo" one] := by
  intro one two
  have hsame : (dependencies "foo" one [⟨"foo", two⟩]).entries.Perm
      (dependencies "foo" two [⟨"foo", one⟩]).entries := by
    rw [entries_dependencies, entries_dependencies]
    exact .swap _ _ _
  refine ⟨by decide +kernel, (DependencyTable.same_iff_perm _ _).mpr hsame, by decide +kernel,
    fun h => ?_⟩
  have hmodule : RuntimeModule.mk "foo" two = ⟨"foo", one⟩ := List.singleton_perm_singleton.mp h
  have hne : RuntimeModule.mk "foo" two ≠ ⟨"foo", one⟩ := by decide +kernel
  exact hne hmodule

end Driver

end ScriptCache
