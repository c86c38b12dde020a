import Mathlib
import ScriptCache.Proofs.Store.Refinement

/-! Insertions that are cut short.

An insertion may die after any of its actions, or in the middle of a write; its files are closed
then, and their locks are gone. `insert_crash_safe` says what the lookups after it find: what they
found before, if it died before it took the info file away; nothing, if it died with the new info
file unwritten or written in part; and nothing but what it was to put there, if all was written.
That a part of an info file is never taken for a whole one rests on its format alone, and on no
digest being the only one of its kind. -/
namespace ScriptCache

/-! ### Histories -/

section

variable [Wire.Memory]

/-- What a machine may have become by insertions into a cache folder that were finished, failed or
were cut short, with lookups in between, and whatever others did that leaves the slots alone. -/
inductive Reached (folder : String) : Machine → Prop where
  | fresh {m : Machine} (h : m.Fresh folder) : Reached folder m
  | insert {m : Machine} (h : Reached folder m) (store : Store) (name : ResourceName)
      (artifact : Bytes) {metadata : Metadata} (fits : metadata.Fits) :
      Reached folder ((store.insert (name.slot folder) artifact metadata).run m).2
  | cut {m : Machine} (h : Reached folder m) (store : Store) (name : ResourceName)
      (artifact : Bytes) {metadata : Metadata} (fits : metadata.Fits) (n size : Nat) :
      Reached folder ((store.insert (name.slot folder) artifact metadata).killed n size m)
  | lookup {m : Machine} (h : Reached folder m) (store : Store) (name : ResourceName)
      (dependencies : DependencyTable) (signature : Bytes) :
      Reached folder ((store.lookup (name.slot folder) dependencies signature).run m).2
  | others {m : Machine} (h : Reached folder m) {α : Type} (routine : Routine α)
      (harmless : routine.Harmless folder) : Reached folder (routine.run m).2
  /-- An open file is left to others, who close it after a span of time. -/
  | left {m : Machine} (h : Reached folder m) {handle : Handle} (opened : handle < m.files.length)
      (span : Duration) : Reached folder (m.closeLater handle span)

/-- What a machine may have become by lookups alone. -/
inductive LookedUp (folder : String) (m : Machine) : Machine → Prop where
  | none : LookedUp folder m m
  | lookup {m' : Machine} (h : LookedUp folder m m') (store : Store) (name : ResourceName)
      (dependencies : DependencyTable) (signature : Bytes) :
      LookedUp folder m ((store.lookup (name.slot folder) dependencies signature).run m').2

variable {folder : String} {m m' : Machine} {ledger : Ledger}

/-- Files that are closed change nothing of a slot. -/
theorem Sound.closeFrom (h : Sound folder ⟨m, ledger⟩) (first : Handle) :
    Sound folder ⟨m.closeFrom first, ledger⟩ := by
  refine ⟨h.locks.loosens ⟨fun {handle file mode} hfile hlock => ?_⟩, fun release hrelease => ?_,
    h.unrestricted, h.site⟩
  · rw [Machine.file?_closeFrom] at hfile
    split at hfile
    · exact ⟨file, hfile, rfl, hlock⟩
    · cases hfile
  · rw [Machine.length_closeFrom]
    exact h.releases release hrelease

/-- What is left of an insertion that died. -/
theorem insert_killed {i : Insertion} (store : Store) (hfits : i.metadata.Fits)
    (hs : Sound i.slot.folder ⟨m, ledger⟩) (n size : Nat) :
    ∃ stage, Sound i.slot.folder
        ⟨(store.insert i.slot i.artifact i.metadata).killed n size m, ledger.reached i stage⟩ ∧
      (stage ≠ .untouched ↔ ((store.insert i.slot i.artifact i.metadata).deeds n m).any
        (Deed.removes i.slot.info) = true) := by
  obtain ⟨stage, hsound, hstage⟩ := insert_cut store hfits hs n size
  exact ⟨stage, hsound.closeFrom m.files.length, hstage⟩

theorem Reached.sound (h : Reached folder m) : ∃ ledger, Sound folder ⟨m, ledger⟩ := by
  induction h with
  | fresh h => exact ⟨_, h.sound⟩
  | insert h store name artifact fits ih =>
    obtain ⟨ledger, hs⟩ := ih
    exact ⟨_, insert_run (i := ⟨0, name.slot folder, artifact, _⟩) store fits hs⟩
  | cut h store name artifact fits n size ih =>
    obtain ⟨ledger, hs⟩ := ih
    obtain ⟨stage, hsound, -⟩ := insert_killed (i := ⟨0, name.slot folder, artifact, _⟩) store fits
      hs n size
    exact ⟨_, hsound⟩
  | lookup h store name dependencies signature ih =>
    obtain ⟨ledger, hs⟩ := ih
    have hlookup : Sound (name.slot folder).folder
        ⟨((store.lookup (name.slot folder) dependencies signature).run _).2, ledger⟩ :=
      (lookup_run store hs).1
    exact ⟨ledger, hlookup⟩
  | others h routine harmless ih =>
    obtain ⟨ledger, hs⟩ := ih
    exact ⟨ledger, harmless.run hs⟩
  | left h opened span ih =>
    obtain ⟨ledger, hs⟩ := ih
    refine ⟨ledger, ⟨hs.locks.apart⟩, fun release hrelease => ?_, hs.unrestricted, hs.site⟩
    rcases List.mem_append.mp hrelease with hold | hnew
    · exact hs.releases release hold
    · obtain rfl := List.mem_singleton.mp hnew
      exact opened

theorem LookedUp.sound (h : LookedUp folder m m') (hs : Sound folder ⟨m, ledger⟩) :
    Sound folder ⟨m', ledger⟩ := by
  induction h with
  | none => exact hs
  | lookup h store name dependencies signature ih =>
    have hlookup : Sound (name.slot folder).folder
        ⟨((store.lookup (name.slot folder) dependencies signature).run _).2, ledger⟩ :=
      (lookup_run store ih).1
    exact hlookup

omit [Wire.Memory] in
theorem Machine.Lockless.beside (h : m.Lockless) (hbeside : Routine.Beside m [] m') :
    m'.Lockless :=
  fun handle file hfile => h handle file (hbeside.file? hfile)

theorem LookedUp.lockless (h : LookedUp folder m m') (hm : m.Lockless) : m'.Lockless := by
  induction h with
  | none => exact hm
  | lookup h store name dependencies signature ih => exact ih.beside ((keeps_lookup store).run _)

end

/-! ### What lookups find -/

section

variable {folder : String} {m m' : Machine} {ledger : Ledger} {i : Insertion} {stage : Stage}

theorem Replied.hit_whole {store : Store} {slot : Slot} {dependencies : DependencyTable}
    {signature : Bytes} {entry : Option Record} {outcome : LookupOutcome}
    (h : Replied store slot dependencies signature entry outcome) {hit : CachedArtifact}
    (hhit : outcome = .hit hit) :
    ∃ i, Record.whole? entry = some i ∧ hit = ⟨slot.artifact, i.artifact, i.metadata⟩ := by
  cases h with
  | bypassed forced miss =>
    rw [hhit] at miss
    cases miss
  | locked e miss =>
    rw [hhit] at miss
    cases miss
  | served served =>
    obtain ⟨i, hi, -, heq⟩ := (served.hit_iff hit).mp hhit
    exact ⟨i, hi, heq⟩

theorem Replied.miss {store : Store} {slot : Slot} {dependencies : DependencyTable}
    {signature : Bytes} {entry : Option Record} {outcome : LookupOutcome}
    (h : Replied store slot dependencies signature entry outcome)
    (hwhole : Record.whole? entry = none) : ∃ reason, outcome = .miss reason := by
  cases outcome with
  | miss reason => exact ⟨reason, rfl⟩
  | hit hit =>
    obtain ⟨i, hi, -⟩ := h.hit_whole rfl
    rw [hwhole] at hi
    cases hi
  | brokenOff =>
    cases h with
    | bypassed forced miss => cases miss
    | locked e miss => cases miss
    | served served => exact absurd rfl served.whole

variable [Wire.Memory]

/-- An insertion that came to its last stage left its info file. -/
theorem Sound.info_whole (hs : Sound i.slot.folder ⟨m, ledger⟩)
    (hwhole : ledger i.slot.name = some ⟨i, .whole⟩) :
    m.disk.find? i.slot.info = some (.file i.metadata.encode) := by
  rcases hs.site with ⟨-, hnone⟩ | ⟨node, hleads, htidy, hfiled⟩
  · have hno : ledger i.slot.name = none := hnone i.slot.name
    rw [hwhole] at hno
    cases hno
  · have hrecord : Filed (ledger i.slot.name) m.disk i.slot.folder node i.slot.name :=
      hfiled i.slot.name
    rw [hwhole] at hrecord
    have hinfo : m.disk.content? node (Slot.infoName i.slot.name) = some i.metadata.encode :=
      Record.Filed.info hrecord
    obtain ⟨id, hentry, hcontent⟩ := Disk.content?_eq_some.mp hinfo
    rw [i.slot.info_eq, Disk.find?, Disk.locate_nameable hleads htidy trivial i.slot.plain_infoName
      (Record.Filed.infoNameable hrecord), hentry]
    exact Disk.fileContent?_eq_some.mp hcontent

/-- Whatever came before, and wherever an insertion dies, the lookups after it are as if it had
not been, or find nothing, or find what it was to put there. -/
theorem insert_crash_safe (h : Reached folder m) (store : Store) (name : ResourceName)
    (artifact : Bytes) {metadata : Metadata} (hfits : metadata.Fits) (n size : Nat)
    (hafter : LookedUp folder
      ((store.insert (name.slot folder) artifact metadata).killed n size m) m')
    (reader : Store) (dependencies : DependencyTable) (signature : Bytes) :
    let slot := name.slot folder
    let insertion := store.insert slot artifact metadata
    let removed := (insertion.deeds n m).any (Deed.removes slot.info) = true
    let written := (insertion.killed n size m).disk.find? slot.info = some (.file metadata.encode)
    let before := ((reader.lookup slot dependencies signature).run m).1
    let outcome := ((reader.lookup slot dependencies signature).run m').1
    (¬ removed → m.Lockless ∨ before.HadLocks ∧ outcome.HadLocks →
      ∀ hit, outcome = .hit hit ↔ before = .hit hit) ∧
    (removed → ¬ written → ∃ reason, outcome = .miss reason) ∧
    (removed → written → ∀ hit, outcome = .hit hit → hit = ⟨slot.artifact, artifact, metadata⟩) := by
  intro slot insertion removed written before outcome
  obtain ⟨ledger, hs⟩ := h.sound
  obtain ⟨stage, hkilled, hstage⟩ :=
    insert_killed (i := ⟨0, slot, artifact, metadata⟩) store hfits hs n size
  have hsound : Sound slot.folder ⟨m', ledger.reached ⟨0, slot, artifact, metadata⟩ stage⟩ :=
    hafter.sound hkilled
  have hreplied : Replied reader slot dependencies signature
      (ledger.reached ⟨0, slot, artifact, metadata⟩ stage slot.name) outcome :=
    (lookup_run reader hsound).2
  have hentry (hremoved : removed) : ledger.reached ⟨0, slot, artifact, metadata⟩ stage slot.name =
      some ⟨⟨0, slot, artifact, metadata⟩, stage⟩ := by
    rw [Ledger.reached, if_neg (hstage.mpr hremoved)]
    exact Ledger.set_same _ _ _
  refine ⟨fun hkept hlocks hit => ?_, fun hremoved hunwritten => ?_, fun hremoved _ hit hhit => ?_⟩
  · have huntouched : stage = .untouched := not_not.mp fun hne => hkept (hstage.mp hne)
    rw [huntouched, Ledger.reached, if_pos rfl] at hsound
    have hlockless (hm : m.Lockless) : m'.Lockless :=
      hafter.lockless (hm.beside ((keeps_insert store).killed n size m))
    have hbefore : before = .hit hit ↔ _ := lookup_hit_iff hs (hlocks.imp_right And.left) hit
    have houtcome : outcome = .hit hit ↔ _ := lookup_hit_iff hsound (hlocks.imp hlockless And.right) hit
    rw [hbefore, houtcome]
  · refine hreplied.miss ?_
    by_contra hsome
    obtain ⟨i, hi⟩ := Option.ne_none_iff_exists'.mp hsome
    have hwhole := Record.whole?_eq_some.mp hi
    rw [hentry hremoved] at hwhole
    obtain ⟨rfl, rfl⟩ := Record.mk.inj (Option.some.inj hwhole)
    exact hunwritten (hkilled.info_whole (hentry hremoved))
  · obtain ⟨i, hi, rfl⟩ := hreplied.hit_whole hhit
    have hwhole := Record.whole?_eq_some.mp hi
    rw [hentry hremoved] at hwhole
    obtain ⟨rfl, -⟩ := Record.mk.inj (Option.some.inj hwhole)
    rfl

end

section

attribute [local instance] Wire.Memory.addressSpace

/-- An insertion that replaces another and dies with five bytes of its info file written leaves
nothing to be found. -/
theorem lookup_after_half_written_info :
    let name : ResourceName := ⟨"a", by decide⟩
    let slot := name.slot "c"
    let metadata := Metadata.ofArtifact ⟨[]⟩ [1] [2]
    let m := ((Store.insert {} slot [2] metadata).run .blank).2
    let killed := (Store.insert {} slot [2, 3] (.ofArtifact ⟨[]⟩ [1] [2, 3])).killed 11 5 m
    let reader : Store := {}
    ((reader.lookup slot ⟨[]⟩ [1]).run m).1 = .hit ⟨"c/a.o", [2], metadata⟩ ∧
      ∃ reason, ((reader.lookup slot ⟨[]⟩ [1]).run killed).1 = .miss reason := by
  intro name slot metadata m killed reader
  have hfits : metadata.Fits := by decide +kernel
  have hfits' : (Metadata.ofArtifact ⟨[]⟩ [1] [2, 3]).Fits := by decide +kernel
  have hreached : Reached "c" m := .insert (.fresh Machine.blank_fresh) {} name [2] hfits
  refine ⟨by decide +kernel, ?_⟩
  obtain ⟨-, hmiss, -⟩ :=
    insert_crash_safe hreached {} name [2, 3] hfits' 11 5 .none reader ⟨[]⟩ [1]
  refine hmiss ?_ ?_
  · decide +kernel
  · decide +kernel

end

end ScriptCache
