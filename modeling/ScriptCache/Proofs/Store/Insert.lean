import Mathlib
import ScriptCache.Proofs.Store.Inserting

/-! What becomes of an insertion.

`triple_insert` puts the actions of an insertion together: making the cache folder and taking the
two locks change no slot, the actions after that come under the slot's lock, and none of them
fails but for taking the info file away. So an insertion fails with the slot untouched, or
succeeds with the slot whole, whatever others do meanwhile. -/
namespace ScriptCache

variable [Wire.Memory]

section

variable {path : String} {i : Option Insertion} {parting : Trace → Tracked → Prop} {parts : Bool}
  {own : List Handle} {P Q : Trace → Tracked → Prop}

theorem lasting_settled {ε : Type} (hP : Lasting path i parts own P)
    (hQ : Lasting path i parts own Q) (result : Except ε Unit) :
    Lasting path i parts own (Settled P Q result) := by
  cases result with
  | ok u => exact hQ
  | error e => exact hP

/-! ### Making the cache folder -/

theorem triple_makeFolder (hP : Lasting path i parts own P) {above : String}
    (habove : above ∈ Path.ancestors path) :
    Triple path i parting P (Routine.perform (.makeFolder above)) fun _ => P := by
  have haction : (Action.makeFolder above).Harmless path := habove
  exact .keeping hP haction nofun (fun _ _ => nofun) fun _ => nofun

theorem triple_folderOr (hP : Lasting path i parts own P) (above : String) (e : SysError) :
    Triple path i parting P (Files.folderOr above e) fun _ => P := by
  have haction : (Action.folderExists above).Harmless path := trivial
  refine .bind (.keeping hP haction nofun (fun _ _ => nofun) fun _ => nofun) fun there => ?_
  cases there <;> exact .done fun _ _ _ h => h

theorem triple_makeFolderChain (hP : Lasting path i parts own P) {chain : List String}
    (hchain : ∀ above ∈ chain, above ∈ Path.ancestors path) :
    Triple path i parting P (Files.makeFolderChain chain) fun _ => P := by
  induction chain with
  | nil => exact .done fun _ _ _ h => h
  | cons above chain ih =>
    have hmake : Triple path i parting P (Routine.perform (.makeFolder above)) fun _ => P :=
      triple_makeFolder hP (hchain above List.mem_cons_self)
    have hrest := ih fun other hother => hchain other (List.mem_cons_of_mem above hother)
    refine .bind hmake fun reply => ?_
    cases reply with
    | ok u => exact .done fun _ _ _ h => h
    | error e =>
      by_cases hmissing : e = .notFound
      · subst hmissing
        refine .bind hrest fun result => ?_
        cases result with
        | error e => exact .done fun _ _ _ h => h
        | ok u =>
          refine .bind hmake fun reply => ?_
          cases reply with
          | ok u => exact .done fun _ _ _ h => h
          | error e => exact triple_folderOr hP above e
      · cases e <;> first | exact triple_folderOr hP above _ | exact absurd rfl hmissing

theorem triple_makeFolders (hP : Lasting path i parts own P) :
    Triple path i parting P (Files.makeFolders path) fun _ => P :=
  triple_makeFolderChain hP fun _ h => h

end

/-! ### Under both locks -/

section

variable {i : Insertion} {parting : Trace → Tracked → Prop} {handle file : Handle}

theorem triple_refill (hapart : handle ≠ file) :
    Triple i.slot.folder (some i) parting (fun t s => i.Under handle .removed t s ∧
        Pointing i.slot.folder (Slot.artifactName i.slot.name) false file t s)
      (Store.refill file i.artifact) (Settled (fun _ _ => False) (i.Under handle .filled)) := by
  refine .bind (triple_empty hapart) fun reply => ?_
  cases reply with
  | error e => exact .done fun _ _ _ h => nomatch h.2.1
  | ok u =>
    refine .bind ((triple_fill hapart).weaken (fun _ _ h => ⟨h.1, h.2.2⟩) fun _ _ _ _ h => h)
      fun reply => ?_
    cases reply with
    | error e => exact .done fun _ _ _ h => nomatch h.2.1
    | ok u =>
      refine (triple_sync hapart).weaken (fun _ _ h => ⟨h.1, h.2.2⟩) fun reply _ _ _ h => ?_
      obtain ⟨hunder, rfl⟩ := h
      exact hunder

theorem triple_save (hfits : i.metadata.Fits) :
    Triple i.slot.folder (some i) parting (i.Under handle .filled)
      (i.metadata.save i.slot.info) (Settled (fun _ _ => False) (i.Under handle .whole)) := by
  refine .bind triple_renew fun reply => ?_
  cases reply with
  | error e => exact .done fun _ _ _ h => nomatch h.2
  | ok file =>
    have hstart (t : Trace) (s : Tracked) (h : i.Under handle .opened t s ∧ ∃ other,
        Except.ok file = (Except.ok other : Except SysError Handle) ∧ handle ≠ other ∧
        Pointing i.slot.folder (Slot.infoName i.slot.name) false other t s) :
        handle ≠ file ∧ i.Under handle .opened t s ∧
          Pointing i.slot.folder (Slot.infoName i.slot.name) false file t s := by
      obtain ⟨hunder, other, heq, hne, hpointing⟩ := h
      cases heq
      exact ⟨hne, hunder, hpointing⟩
    refine Triple.weaken (.pure_left fun hapart => ?_) hstart fun _ _ _ _ h => h
    refine Triple.closing ((triple_inform hfits hapart).weaken (fun _ _ h => h)
      fun reply _ _ _ h => ?_) (lasting_settled lasting_never (lasting_under i handle .whole))
      (by simpa using hapart.symm) fun _ _ h => h.2.mine
    obtain ⟨hunder, rfl⟩ := h
    exact hunder

/-- Whether an insertion has its slot's lock and has changed nothing. -/
structure Insertion.Kept (i : Insertion) (handle : Handle) (t : Trace) (s : Tracked) : Prop where
  gripping : ∃ entry, Gripping i.slot.folder i.slot.name .exclusive handle entry t s
  reached : i.At .untouched t

/-- What an insertion that has its slot's lock comes to, but for locks that it gave up. -/
def Insertion.Through (i : Insertion) (handle : Handle) (result : Except CacheError Unit) :
    Trace → Tracked → Prop :=
  Settled
    (fun t s => (∃ entry, Gripping i.slot.folder i.slot.name .exclusive handle entry t s) ∧
      i.stage (Trace.deeds t) = .untouched)
    (fun t s => Gripping i.slot.folder i.slot.name .exclusive handle (some ⟨i, .whole⟩) t s ∧
      i.stage (Trace.deeds t) = .whole) result

theorem lasting_kept (i : Insertion) (handle : Handle) :
    Lasting i.slot.folder (some i) false [handle] (i.Kept handle) where
  opened := fun ⟨⟨_, hgrip⟩, _⟩ _ hother => List.mem_singleton.mp hother ▸ hgrip.mine
  lasts := fun ⟨⟨entry, hgrip⟩, hreached⟩ ht hrely hs =>
    ⟨⟨entry, (lasting_gripping _ _ _ handle entry).lasts hgrip ht hrely hs⟩,
      (lasting_at i .untouched).lasts hreached ht (hrely.sub nofun) hs⟩

theorem lasting_through (i : Insertion) (handle : Handle) (result : Except CacheError Unit) :
    Lasting i.slot.folder (some i) true [handle] (i.Through handle result) := by
  have hentry (entry : Option Record) :
      Lasting i.slot.folder (some i) true [handle]
        (Gripping i.slot.folder i.slot.name .exclusive handle entry) :=
    lasting_gripping _ _ _ handle entry
  exact lasting_settled ((Lasting.exists hentry).and (lasting_ended i .untouched))
    ((hentry _).and (lasting_ended i .whole)) result

theorem Insertion.Through.leaves {result : Except CacheError Unit} {t : Trace} {s : Tracked}
    (h : i.Through handle result t s) (hs : Sound i.slot.folder s) : i.Parting t s := by
  intro hwhole
  cases result with
  | error e =>
    rw [h.2] at hwhole
    cases hwhole
  | ok u =>
    obtain ⟨-, folder, -, -, hleads, -⟩ := h.1.grips
    obtain ⟨-, hfiled⟩ := hs.site.of_leads hleads
    have hentry := hfiled i.slot.name
    rw [h.1.ledger] at hentry
    obtain ⟨content, hcontent, hdue⟩ := Record.Filed.artifact hentry
    exact ⟨folder, hleads, by rw [hcontent, hdue i.artifact rfl]⟩

theorem triple_replaceSlot (hable : i.Able) (hapart : handle ≠ file) :
    Triple i.slot.folder (some i) parting (i.Ready handle file)
      (Store.replaceSlot i.slot file i.artifact i.metadata) (i.Through handle) := by
  refine .bind (triple_removeInfo hable) fun result => ?_
  cases result with
  | error e => exact .done fun _ _ _ h => ⟨h.gripping, h.reached.stage⟩
  | ok u =>
    refine .bind (triple_refill hapart) fun result => ?_
    cases result with
    | error e => exact .done fun _ _ _ h => h.elim
    | ok u =>
      refine .bind (triple_save hable.fits) fun result => ?_
      cases result with
      | error e => exact .done fun _ _ _ h => h.elim
      | ok u =>
        refine .bind (.say (lasting_under i handle .whole) _) fun _ => ?_
        exact .done fun _ _ _ h => ⟨h.gripping, h.reached.stage⟩

end

/-! ### The whole insertion -/

section

variable {i : Insertion} {handle : Handle}

theorem granting_artifact {handle file : Handle} (hapart : handle ≠ file) :
    Granting i.slot.folder file .exclusive (i.Ready handle file) (i.Ready handle file) := by
  rintro t s hs howned ⟨⟨entry, hgrip⟩, hpointing, hreached⟩ hgranted
  have haction : (Action.tryLock file .exclusive).Harmless i.slot.folder := trivial
  obtain ⟨folder, node, hfile, hleads, hentry⟩ := hpointing.locked hgranted
  have hkept := (lasting_kept i handle).harmless haction (fun _ _ => nofun)
    (fun other hother hmem =>
      hapart ((List.mem_singleton.mp hother).symm.trans (List.mem_singleton.mp hmem)))
    hs howned ⟨⟨entry, hgrip⟩, hreached⟩
  exact ⟨hkept.gripping,
    ⟨Trace.mem_opened_cons hpointing.mine _, folder, node, _, hfile, hleads, hentry⟩, hkept.reached⟩

theorem triple_insertLocked (policy : RetryPolicy) (hfits : i.metadata.Fits)
    (hlock : Disk.Nameable i.slot.folder (Slot.lockName i.slot.name)) :
    Triple i.slot.folder (some i) i.Parting (i.Kept handle)
      (Store.insertLocked policy i.slot i.artifact i.metadata) (i.Through handle) := by
  have hkept := lasting_kept i handle
  have hopen : Triple i.slot.folder (some i) i.Parting (i.Kept handle)
      (Routine.perform (.openFile i.slot.artifact .write)) (Opened i.slot.folder
        (Slot.artifactName i.slot.name) .write [handle] (fun _ => True) (i.Kept handle)) :=
    triple_open hkept i.slot.plain_artifactName (.inr (.inr rfl)) nofun fun _ _ _ => trivial
  refine .bind hopen fun reply => ?_
  cases reply with
  | error e => exact .done fun _ _ _ h => ⟨h.2.gripping, h.2.reached.stage⟩
  | ok file =>
    refine .pure_left fun ⟨hnew, hartifact⟩ => ?_
    have hapart : handle ≠ file := fun heq => hnew (heq ▸ List.mem_singleton_self _)
    refine .bind ((triple_lockFile (lasting_ready i handle file) (lasting_ready i handle file)
      (fun h => h.pointing.mine) (granting_artifact hapart) hkept hnew
      (fun h => ⟨h.gripping, h.reached⟩) i.slot.artifact policy).weaken
      (fun _ _ h => ⟨h.1.gripping, h.2.1, h.1.reached⟩) fun _ _ _ _ h => h) fun result => ?_
    cases result with
    | error e => exact .done fun _ _ _ h => ⟨h.gripping, h.reached.stage⟩
    | ok lock =>
      refine .pure_left fun hlocked => ?_
      subst hlocked
      exact triple_during (triple_replaceSlot ⟨hfits, hartifact, hlock⟩ hapart)
        (lasting_through i handle) (lasting_through i handle) hnew (fun _ _ h => h.pointing.mine)
        (fun hs h => h.leaves hs) fun h => h

/-- An insertion that succeeds has come to its last stage, and one that fails has left its slot
untouched. -/
theorem triple_insert (store : Store) (hfits : i.metadata.Fits) :
    Triple i.slot.folder (some i) i.Parting (fun t _ => i.At .untouched t)
      (store.insert i.slot i.artifact i.metadata)
      (Settled (fun t _ => i.stage (Trace.deeds t) = .untouched)
        fun t _ => i.stage (Trace.deeds t) = .whole) := by
  refine .bind (triple_makeFolders (lasting_at i .untouched)) fun result => ?_
  cases result with
  | error e => exact .done fun _ _ _ h => h.stage
  | ok u =>
    refine .bind (triple_acquire i.slot (lasting_at i .untouched) .exclusive store.policy)
      fun result => ?_
    cases result with
    | error e => exact .done fun _ _ _ h => h.stage
    | ok lock =>
      refine .pure_left fun ⟨_, hlock⟩ => ?_
      have hlocked : Triple i.slot.folder (some i) i.Parting (i.Kept lock.handle) _ _ :=
        triple_insertLocked store.policy hfits hlock
      refine triple_during (hlocked.weaken ?_ fun _ _ _ _ h => h) (lasting_through i lock.handle)
        (lasting_settled (lasting_ended i .untouched) (lasting_ended i .whole)) nofun ?_
        (fun hs h => h.leaves hs) fun {result t s} h => ?_
      · rintro t s ⟨hreached, entry, hgrip, -⟩
        exact ⟨⟨entry, hgrip⟩, hreached⟩
      · rintro t s ⟨-, entry, hgrip, -⟩
        exact hgrip.mine
      · cases result with
        | ok u => exact h.2
        | error e => exact h.2

end

end ScriptCache
