import Mathlib
import ScriptCache.Object.Executable
import ScriptCache.Proofs.Dependency.Multiset
import ScriptCache.Proofs.Entries

/-! Which images become executables.

An image can be linked if its exports have different names and lie inside its code, and if the
resolvers know its imports (`ObjectImage.Linkable`). Both are found out by going through a list up
to the first entry at fault, so what is known at a fault is that every entry before it is sound:
`exportFlaw?_eq_some` and `bindImports_eq_error` take the list apart there, and `FirstFault` says
which error comes of it. An image that is linked keeps its code, has each of its exports once, in
the order of the names, and has every import bound to the answer of the resolvers (`LinkedTo`).
`loadImage_exact` puts these together for the bytes of an image. -/
namespace ScriptCache

/-- Whether a name comes before another in the order of their bytes. -/
def NameBefore (a b : String × UInt64) : Prop :=
  Bytes.compare (Utf8.encode a.1) (Utf8.encode b.1) = .lt

namespace Executable

variable {origin : String} {resolvers : ResolverChain}

theorem inNameOrder_perm (exports : List Export) :
    (inNameOrder exports).Perm (exports.map fun e => (e.name, e.offset)) :=
  List.mergeSort_perm _ _

theorem names_inNameOrder (exports : List Export) :
    ((inNameOrder exports).map Prod.fst).Perm (exports.map Export.name) := by
  have h := (inNameOrder_perm exports).map Prod.fst
  rwa [List.map_map] at h

/-- Exports with different names are in the strict order of these. -/
theorem inNameOrder_ordered {exports : List Export} (h : (exports.map Export.name).Nodup) :
    (inNameOrder exports).Pairwise NameBefore := by
  let order : String × UInt64 → String × UInt64 → Ordering := compareOn fun e => Utf8.encode e.1
  have horder (a b : String × UInt64) :
      Bytes.compare (Utf8.encode a.1) (Utf8.encode b.1) = order a b := Bytes.compare_eq _ _
  have hsorted : (inNameOrder exports).Pairwise fun a b => (order a b).isLE := by
    simp only [inNameOrder, horder]
    refine List.pairwise_mergeSort (fun a b c => Std.TransCmp.isLE_trans) (fun a b => ?_) _
    rw [Bool.or_eq_true]
    by_cases hab : (order a b).isLE
    · exact .inl hab
    · exact .inr (Ordering.isLE_of_eq_lt (Std.OrientedCmp.lt_of_not_isLE hab))
  have hnames : (inNameOrder exports).Pairwise fun a b => a.1 ≠ b.1 :=
    List.pairwise_map.mp ((names_inNameOrder exports).nodup_iff.mpr h)
  refine (hsorted.and hnames).imp fun {a b} hab => ?_
  rw [NameBefore, horder]
  cases hcompare : order a b with
  | lt => rfl
  | eq => exact absurd (Utf8.encode_injective (Std.LawfulEqOrd.eq_of_compare hcompare)) hab.2
  | gt =>
    have hle := hab.1
    rw [hcompare] at hle
    cases hle

/-! ### Exports -/

/-- Whether exports behind others with some names lie inside code of some size, under names of their
own. -/
structure SoundExports (size : Nat) (seen : List String) (exports : List Export) : Prop where
  inside : ∀ e ∈ exports, e.offset.toNat < size
  unseen : ∀ e ∈ exports, e.name ∉ seen
  distinct : (exports.map Export.name).Nodup

/-- What is wrong with an export behind others with some names. One that is outside the code is said
to be so, whatever its name. -/
inductive ExportFault (size : Nat) (seen : List String) (e : Export) : ImageFlaw → Prop
  | outside : size ≤ e.offset.toNat → ExportFault size seen e (.outside e.name e.offset size)
  | repeated : e.offset.toNat < size → e.name ∈ seen → ExportFault size seen e (.repeated e.name)

theorem soundExports_nil (size : Nat) (seen : List String) : SoundExports size seen [] :=
  ⟨nofun, nofun, .nil⟩

theorem soundExports_cons {size : Nat} {seen : List String} {e : Export} {rest : List Export} :
    SoundExports size seen (e :: rest) ↔
      e.offset.toNat < size ∧ e.name ∉ seen ∧ SoundExports size (e.name :: seen) rest := by
  constructor
  · rintro ⟨hinside, hunseen, hdistinct⟩
    rw [List.forall_mem_cons] at hinside hunseen
    rw [List.map_cons, List.nodup_cons] at hdistinct
    refine ⟨hinside.1, hunseen.1, hinside.2, fun other hother hname => ?_, hdistinct.2⟩
    rcases List.mem_cons.mp hname with hname | hname
    · exact hdistinct.1 (hname ▸ List.mem_map_of_mem hother)
    · exact hunseen.2 other hother hname
  · rintro ⟨hinside, hunseen, hrest⟩
    refine ⟨List.forall_mem_cons.mpr ⟨hinside, hrest.inside⟩, List.forall_mem_cons.mpr
      ⟨hunseen, fun other hother hname => hrest.unseen other hother (List.mem_cons_of_mem _ hname)⟩,
      List.nodup_cons.mpr ⟨fun hmem => ?_, hrest.distinct⟩⟩
    obtain ⟨other, hother, hname⟩ := List.mem_map.mp hmem
    exact hrest.unseen other hother (hname ▸ List.mem_cons_self)

theorem exportFlaw?_eq_none {size : Nat} {seen : List String} {exports : List Export} :
    exportFlaw? size seen exports = none ↔ SoundExports size seen exports := by
  induction exports generalizing seen with
  | nil => exact ⟨fun _ => soundExports_nil size seen, fun _ => rfl⟩
  | cons e rest ih =>
    rw [exportFlaw?, soundExports_cons, ← ih]
    by_cases hinside : e.offset.toNat < size
    · by_cases hseen : e.name ∈ seen <;> simp [Nat.not_le.mpr hinside, hinside, hseen]
    · simp [Nat.le_of_not_lt hinside, hinside]

theorem ExportFault.perm {size : Nat} {seen seen' : List String} {e : Export} {flaw : ImageFlaw}
    (h : ExportFault size seen e flaw) (hperm : seen.Perm seen') :
    ExportFault size seen' e flaw := by
  cases h with
  | outside houtside => exact .outside houtside
  | repeated hinside hseen => exact .repeated hinside (hperm.subset hseen)

/-- The flaw is that of the first export with one. -/
theorem exportFlaw?_eq_some {size : Nat} {seen : List String} {exports : List Export}
    {flaw : ImageFlaw} :
    exportFlaw? size seen exports = some flaw ↔
      ∃ before e after, exports = before ++ e :: after ∧ SoundExports size seen before ∧
        ExportFault size (seen ++ before.map Export.name) e flaw := by
  constructor
  · intro h
    induction exports generalizing seen with
    | nil => cases h
    | cons e rest ih =>
      rw [exportFlaw?] at h
      split at h
      · rename_i houtside
        cases h
        exact ⟨[], e, rest, rfl, soundExports_nil size seen, .outside houtside⟩
      rename_i hinside
      split at h
      · rename_i hseen
        cases h
        exact ⟨[], e, rest, rfl, soundExports_nil size seen,
          .repeated (Nat.lt_of_not_le hinside)
            (List.mem_append_left _ (List.contains_iff_mem.mp hseen))⟩
      rename_i hunseen
      obtain ⟨before, fault, after, rfl, hbefore, hfault⟩ := ih h
      exact ⟨e :: before, fault, after, rfl, soundExports_cons.mpr ⟨Nat.lt_of_not_le hinside,
        fun hmem => hunseen (List.contains_iff_mem.mpr hmem), hbefore⟩,
        hfault.perm List.perm_middle.symm⟩
  · rintro ⟨before, e, after, rfl, hbefore, hfault⟩
    induction before generalizing seen with
    | nil =>
      rw [List.map_nil, List.append_nil] at hfault
      rw [List.nil_append, exportFlaw?]
      cases hfault with
      | outside houtside => rw [if_pos houtside]
      | repeated hinside hseen =>
        rw [if_neg (Nat.not_le.mpr hinside), if_pos (List.contains_iff_mem.mpr hseen)]
    | cons first before ih =>
      obtain ⟨hinside, hunseen, hbefore⟩ := soundExports_cons.mp hbefore
      rw [List.cons_append, exportFlaw?, if_neg (Nat.not_le.mpr hinside),
        if_neg (mt List.contains_iff_mem.mp hunseen)]
      exact ih hbefore (hfault.perm List.perm_middle)

/-! ### Imports -/

/-- Whether a name is bound to what the resolvers answer. -/
def BoundBy (resolvers : ResolverChain) (name : String) (bound : String × UInt64) : Prop :=
  bound.1 = name ∧ (resolvers.resolve name).map Prod.fst = some bound.2

theorem bindImports_unknown {name : String} (h : resolvers.resolve name = none)
    (rest : List String) :
    (bindImports origin resolvers (name :: rest)).1 = .error (.unresolved name) := by
  rw [bindImports, h]

theorem bindImports_cons {name : String} {found : UInt64 × String}
    (h : resolvers.resolve name = some found) (rest : List String) :
    (bindImports origin resolvers (name :: rest)).1 =
      (bindImports origin resolvers rest).1.map ((name, found.1) :: ·) := by
  rw [bindImports, h]

/-- The names are bound one by one, in their order. -/
theorem bindImports_eq_ok {names : List String} {imports : List (String × UInt64)}
    (h : (bindImports origin resolvers names).1 = .ok imports) :
    List.Forall₂ (BoundBy resolvers) names imports := by
  induction names generalizing imports with
  | nil =>
    cases h
    exact .nil
  | cons name rest ih =>
    cases hresolve : resolvers.resolve name with
    | none =>
      rw [bindImports_unknown hresolve] at h
      cases h
    | some found =>
      rw [bindImports_cons hresolve] at h
      cases hrest : (bindImports origin resolvers rest).1 with
      | error e =>
        rw [hrest] at h
        cases h
      | ok others =>
        rw [hrest] at h
        cases h
        exact .cons ⟨rfl, by rw [hresolve]; rfl⟩ (ih hrest)

/-- Symbols that are all known are bound. -/
theorem bindImports_known (origin : String) {names : List String}
    (h : ∀ name ∈ names, ∃ found, resolvers.resolve name = some found) :
    ∃ imports, (bindImports origin resolvers names).1 = .ok imports := by
  induction names with
  | nil => exact ⟨[], rfl⟩
  | cons name rest ih =>
    obtain ⟨⟨found, hresolve⟩, hrest⟩ := List.forall_mem_cons.mp h
    obtain ⟨others, hothers⟩ := ih hrest
    exact ⟨(name, found.1) :: others, by rw [bindImports_cons hresolve, hothers]; rfl⟩

/-- The error names the first symbol that nobody knows. -/
theorem bindImports_eq_error {names : List String} {e : LoadError} :
    (bindImports origin resolvers names).1 = .error e ↔
      ∃ before name after, names = before ++ name :: after ∧
        (∀ n ∈ before, ∃ found, resolvers.resolve n = some found) ∧
        resolvers.resolve name = none ∧ e = .unresolved name := by
  constructor
  · intro h
    induction names with
    | nil => cases h
    | cons name rest ih =>
      cases hresolve : resolvers.resolve name with
      | none =>
        rw [bindImports_unknown hresolve] at h
        cases h
        exact ⟨[], name, rest, rfl, nofun, hresolve, rfl⟩
      | some found =>
        rw [bindImports_cons hresolve] at h
        cases hrest : (bindImports origin resolvers rest).1 with
        | ok others =>
          rw [hrest] at h
          cases h
        | error e' =>
          rw [hrest] at h
          cases h
          obtain ⟨before, first, after, rfl, hbefore, hfirst⟩ := ih hrest
          exact ⟨name :: before, first, after, rfl,
            List.forall_mem_cons.mpr ⟨⟨found, hresolve⟩, hbefore⟩, hfirst⟩
  · rintro ⟨before, name, after, rfl, hbefore, hname, rfl⟩
    induction before with
    | nil => exact bindImports_unknown hname after
    | cons first before ih =>
      obtain ⟨⟨found, hfound⟩, hbefore⟩ := List.forall_mem_cons.mp hbefore
      rw [List.cons_append, bindImports_cons hfound, ih hbefore]
      rfl

theorem known_of_bindImports {names : List String} {imports : List (String × UInt64)}
    (h : (bindImports origin resolvers names).1 = .ok imports) :
    ∀ name ∈ names, ∃ found, resolvers.resolve name = some found := by
  have hbound := bindImports_eq_ok h
  clear h
  induction hbound with
  | nil => nofun
  | cons hbound _ ih =>
    obtain ⟨found, hfound, -⟩ := Option.map_eq_some_iff.mp hbound.2
    exact List.forall_mem_cons.mpr ⟨⟨found, hfound⟩, ih⟩

theorem names_bindImports {names : List String} {imports : List (String × UInt64)}
    (h : (bindImports origin resolvers names).1 = .ok imports) : imports.map Prod.fst = names := by
  have hbound := bindImports_eq_ok h
  clear h
  induction hbound with
  | nil => rfl
  | cons hbound _ ih => rw [List.map_cons, hbound.1, ih]

/-- A name that was bound has the answer of the resolvers, however often it was to be bound. -/
theorem lookup_bindImports {names : List String} {imports : List (String × UInt64)}
    (h : (bindImports origin resolvers names).1 = .ok imports) (name : String) :
    imports.lookup name =
      if name ∈ names then (resolvers.resolve name).map Prod.fst else none := by
  have hbound := bindImports_eq_ok h
  clear h
  induction hbound with
  | nil => rfl
  | @cons known bound rest others hbound _ ih =>
    obtain ⟨bound, address⟩ := bound
    obtain ⟨hknown, hresolve⟩ := hbound
    obtain rfl : bound = known := hknown
    by_cases hname : name = bound
    · rw [hname, List.lookup_cons_self, if_pos List.mem_cons_self, hresolve]
    · rw [List.lookup_cons, beq_false_of_ne hname, ih]
      simp only [List.mem_cons, hname, false_or]

end Executable

namespace ObjectImage

open Executable

/-! ### Linking -/

/-- Whether an image can be made into an executable. -/
structure Linkable (image : ObjectImage) (resolvers : ResolverChain) : Prop where
  distinct : (image.exports.map Export.name).Nodup
  inside : ∀ e ∈ image.exports, e.offset.toNat < image.text.length
  known : ∀ name ∈ image.imports, ∃ found, resolvers.resolve name = some found

/-- What an executable has of the image that it was made from. -/
structure LinkedTo (image : ObjectImage) (origin : String) (resolvers : ResolverChain)
    (executable : Executable) : Prop where
  origin : executable.origin = origin
  text : executable.text = image.text
  symbols : ∀ name offset, executable.symbol? name = some offset ↔ ⟨name, offset⟩ ∈ image.exports
  inside : ∀ name offset, executable.symbol? name = some offset →
    offset.toNat < executable.text.length
  listed : executable.exports.Perm (image.exports.map fun e => (e.name, e.offset))
  ordered : executable.exports.Pairwise NameBefore
  bound : ∀ name, executable.import? name =
    if name ∈ image.imports then (resolvers.resolve name).map Prod.fst else none

/-- The error of the first export at fault, or else of the first import that nobody knows. -/
inductive FirstFault (image : ObjectImage) (resolvers : ResolverChain) : LoadError → Prop
  | exported (before : List Export) (e : Export) (after : List Export) (flaw : ImageFlaw) :
    image.exports = before ++ e :: after → SoundExports image.text.length [] before →
    ExportFault image.text.length (before.map Export.name) e flaw →
    FirstFault image resolvers (.malformed flaw.message)
  | imported (before : List String) (name : String) (after : List String) :
    SoundExports image.text.length [] image.exports → image.imports = before ++ name :: after →
    (∀ n ∈ before, ∃ found, resolvers.resolve n = some found) → resolvers.resolve name = none →
    FirstFault image resolvers (.unresolved name)

variable {image : ObjectImage} {origin : String} {resolvers : ResolverChain}
  {executable : Executable}

theorem link_flawed {flaw : ImageFlaw}
    (h : exportFlaw? image.text.length [] image.exports = some flaw) (origin : String)
    (resolvers : ResolverChain) :
    (link image origin resolvers).1 = .error (.malformed flaw.message) := by
  rw [link, h]

theorem link_sound (h : SoundExports image.text.length [] image.exports) (origin : String)
    (resolvers : ResolverChain) :
    (link image origin resolvers).1 = (bindImports origin resolvers image.imports).1.map
      fun imports => ⟨origin, image.text, inNameOrder image.exports, imports⟩ := by
  rw [link, exportFlaw?_eq_none.mpr h]

theorem link_eq_ok : (link image origin resolvers).1 = .ok executable ↔
    SoundExports image.text.length [] image.exports ∧
      ∃ imports, (bindImports origin resolvers image.imports).1 = .ok imports ∧
        executable = ⟨origin, image.text, inNameOrder image.exports, imports⟩ := by
  cases hflaw : exportFlaw? image.text.length [] image.exports with
  | some flaw => simp [link_flawed hflaw, ← exportFlaw?_eq_none, hflaw]
  | none =>
    have hsound := exportFlaw?_eq_none.mp hflaw
    rw [link_sound hsound, and_iff_right hsound]
    cases (bindImports origin resolvers image.imports).1 with
    | error e => simp [Except.map]
    | ok imports => simp [Except.map, eq_comm]

theorem linkable_iff (origin : String) : image.Linkable resolvers ↔
    ∃ executable, (link image origin resolvers).1 = .ok executable := by
  constructor
  · intro h
    obtain ⟨imports, himports⟩ := bindImports_known origin h.known
    exact ⟨_, link_eq_ok.mpr ⟨⟨h.inside, fun _ _ => List.not_mem_nil, h.distinct⟩, imports,
      himports, rfl⟩⟩
  · rintro ⟨executable, h⟩
    obtain ⟨hexports, imports, himports, -⟩ := link_eq_ok.mp h
    exact ⟨hexports.distinct, hexports.inside, known_of_bindImports himports⟩

theorem linkedTo_of_link (h : (link image origin resolvers).1 = .ok executable) :
    image.LinkedTo origin resolvers executable := by
  obtain ⟨hexports, imports, himports, rfl⟩ := link_eq_ok.mp h
  have hlisted := inNameOrder_perm image.exports
  have hsymbols (name : String) (offset : UInt64) :
      (inNameOrder image.exports).lookup name = some offset ↔
        ⟨name, offset⟩ ∈ image.exports := by
    rw [lookup_of_nodup ((names_inNameOrder image.exports).nodup_iff.mpr
      hexports.distinct), hlisted.mem_iff, List.mem_map]
    constructor
    · rintro ⟨e, he, heq⟩
      cases heq
      exact he
    · intro he
      exact ⟨_, he, rfl⟩
  exact {
    origin := rfl
    text := rfl
    symbols := hsymbols
    inside := fun name offset hsymbol => hexports.inside _ ((hsymbols name offset).mp hsymbol)
    listed := hlisted
    ordered := inNameOrder_ordered hexports.distinct
    bound := lookup_bindImports himports }

theorem link_eq_error {e : LoadError} :
    (link image origin resolvers).1 = .error e ↔ image.FirstFault resolvers e := by
  constructor
  · intro h
    cases hflaw : exportFlaw? image.text.length [] image.exports with
    | some flaw =>
      rw [link_flawed hflaw] at h
      cases h
      obtain ⟨before, fault, after, hexports, hbefore, hfault⟩ := exportFlaw?_eq_some.mp hflaw
      exact .exported before fault after flaw hexports hbefore hfault
    | none =>
      have hsound := exportFlaw?_eq_none.mp hflaw
      rw [link_sound hsound] at h
      cases hbound : (bindImports origin resolvers image.imports).1 with
      | ok imports =>
        rw [hbound] at h
        cases h
      | error e' =>
        rw [hbound] at h
        cases h
        obtain ⟨before, name, after, himports, hbefore, hname, rfl⟩ :=
          bindImports_eq_error.mp hbound
        exact .imported before name after hsound himports hbefore hname
  · intro h
    cases h with
    | exported before fault after flaw hexports hbefore hfault =>
      exact link_flawed (exportFlaw?_eq_some.mpr ⟨before, fault, after, hexports, hbefore, hfault⟩)
        origin resolvers
    | imported before name after hsound himports hbefore hname =>
      have hbound : (bindImports origin resolvers image.imports).1 = .error (.unresolved name) :=
        bindImports_eq_error.mpr ⟨before, name, after, himports, hbefore, hname, rfl⟩
      rw [link_sound hsound, hbound]
      rfl

end ObjectImage

namespace Executable

theorem loadImage_of_decode {bytes : Bytes} {image : ObjectImage}
    (h : ObjectImage.decode bytes = .ok image) (origin : String) (resolvers : ResolverChain) :
    loadImage bytes origin resolvers = link image origin resolvers := by
  rw [loadImage, h]

theorem loadImage_eq_ok {bytes : Bytes} {origin : String} {resolvers : ResolverChain}
    {executable : Executable} :
    (loadImage bytes origin resolvers).1 = .ok executable ↔
      ∃ image, ObjectImage.decode bytes = .ok image ∧
        (link image origin resolvers).1 = .ok executable := by
  rw [loadImage]
  cases ObjectImage.decode bytes with
  | error flaw => simp
  | ok image => simp

/-- The bytes of an image are loaded exactly if the image can be linked. The executable then has the
image's code, each of its exports once in the order of the names, and its imports bound as the
resolvers answer; where the image cannot be linked, the error is that of the first fault. -/
theorem loadImage_exact (bytes : Bytes) (origin : String) (resolvers : ResolverChain) :
    let loaded := (loadImage bytes origin resolvers).1
    ((∃ executable, loaded = .ok executable) ↔
        ∃ image, ObjectImage.decode bytes = .ok image ∧ image.Linkable resolvers) ∧
      ∀ image, ObjectImage.decode bytes = .ok image →
        (∀ executable, loaded = .ok executable → image.LinkedTo origin resolvers executable) ∧
        ∀ e, loaded = .error e ↔ image.FirstFault resolvers e := by
  refine ⟨?_, fun image himage => ?_⟩
  · simp only [ObjectImage.linkable_iff origin, loadImage_eq_ok]
    exact ⟨fun ⟨executable, image, himage, h⟩ => ⟨image, himage, executable, h⟩,
      fun ⟨image, himage, executable, h⟩ => ⟨executable, image, himage, h⟩⟩
  · rw [loadImage_of_decode himage]
    exact ⟨fun _ => ObjectImage.linkedTo_of_link, fun _ => ObjectImage.link_eq_error⟩

/-- An image that needs a symbol twice is linked where the symbol is known. An export that is both
outside the code and a second one of its name is said to be outside, and counts before an import
that nobody knows. -/
theorem linked_and_refused :
    let image : ObjectImage := ⟨["f", "f"], [⟨"b", 1⟩, ⟨"a", 0⟩], [1, 2]⟩
    let faulty : ObjectImage := ⟨["g"], [⟨"b", 1⟩, ⟨"b", 2⟩], [1, 2]⟩
    let resolvers : ResolverChain := ⟨[(SymbolTable.ofList "table" [("f", 7)]).resolver]⟩
    (∃ executable, (loadImage image.encode "a.o" resolvers).1 = .ok executable ∧
      executable.symbol? "a" = some 0 ∧ executable.import? "f" = some 7) ∧
    (loadImage faulty.encode "a.o" resolvers).1 =
      .error (.malformed (ImageFlaw.outside "b" 2 2).message) := by
  intro image faulty resolvers
  have himage : ObjectImage.decode image.encode = .ok image := by decide +kernel
  have hfaulty : ObjectImage.decode faulty.encode = .ok faulty := by decide +kernel
  obtain ⟨hloads, hlinked⟩ := loadImage_exact image.encode "a.o" resolvers
  obtain ⟨-, hrefused⟩ := loadImage_exact faulty.encode "a.o" resolvers
  have hknown : ∀ name ∈ image.imports, resolvers.resolve name = some (7, "table") := by
    decide +kernel
  constructor
  · obtain ⟨executable, hloaded⟩ := hloads.mpr
      ⟨image, himage, by decide, by decide, fun name hname => ⟨_, hknown name hname⟩⟩
    have h := (hlinked image himage).1 executable hloaded
    refine ⟨executable, hloaded, (h.symbols "a" 0).mpr (by decide), ?_⟩
    rw [h.bound, if_pos (by decide), hknown "f" (by decide)]
    rfl
  · exact ((hrefused faulty hfaulty).2 _).mpr (.exported [⟨"b", 1⟩] ⟨"b", 2⟩ [] _ rfl
      ⟨by decide, by decide, by decide⟩ (.outside (by decide)))

end Executable

end ScriptCache
