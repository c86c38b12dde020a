import Mathlib
import ScriptCache.Proofs.Store.HeldLocks
import ScriptCache.Proofs.Store.Revision

/-! Insertions.

An insertion that has the slot's lock takes the info file away, empties the artifact, fills it and
sees that it is kept, opens a new info file and writes it. Each of these actions that changes the
disk is a revision that brings the slot to the next stage, and a write that is cut short brings it
back to there being no legible info file.

`triple_insert` says what follows, whatever others do meanwhile: an insertion that succeeds has
come to its last stage, one that fails has left the slot as it was, and if it has come to its last
stage then the artifact is its own when it gives up either lock. -/
namespace ScriptCache

/-! ### How far an insertion has come -/

/-- Whether an insertion is at a stage and has given up no lock yet. -/
structure Insertion.At [Wire.Memory] (i : Insertion) (stage : Stage) (t : Trace) : Prop where
  stage : i.stage (Trace.deeds t) = stage
  unparted : (Trace.deeds t).any Deed.unlocks = false

/-- Whether an insertion has its slot's lock, and the ledger tells how far it has come. -/
structure Insertion.Under [Wire.Memory] (i : Insertion) (handle : Handle) (stage : Stage)
    (t : Trace) (s : Tracked) : Prop where
  gripping : Gripping i.slot.folder i.slot.name .exclusive handle (some ⟨i, stage⟩) t s
  reached : i.At stage t

/-- An insertion that is through with its slot leaves the artifact as its own. -/
def Insertion.Parting [Wire.Memory] (i : Insertion) (t : Trace) (s : Tracked) : Prop :=
  i.stage (Trace.deeds t) = .whole → ∃ folder, s.machine.disk.Leads i.slot.folder folder ∧
    s.machine.disk.content? folder (Slot.artifactName i.slot.name) = some i.artifact

section

variable [Wire.Memory] {i : Insertion} {path : String} {stage : Stage} {handle : Handle}
  {t : Trace} {s : Tracked}

theorem lasting_at (i : Insertion) (stage : Stage) :
    Lasting path (some i) false [] fun t _ => i.At stage t :=
  ⟨fun _ => nofun, fun h ht _ _ => ⟨(ht.stage i rfl).trans h.stage, (ht.unlocked rfl).trans h.unparted⟩⟩

theorem lasting_ended (i : Insertion) (stage : Stage) :
    Lasting path (some i) true [] fun t _ => i.stage (Trace.deeds t) = stage :=
  ⟨fun _ => nofun, fun h ht _ _ => (ht.stage i rfl).trans h⟩

theorem lasting_under (i : Insertion) (handle : Handle) (stage : Stage) :
    Lasting i.slot.folder (some i) false [handle] (i.Under handle stage) where
  opened h _ hother := List.mem_singleton.mp hother ▸ h.gripping.mine
  lasts h ht hrely hs :=
    ⟨(lasting_gripping _ _ _ handle _).lasts h.gripping ht hrely hs,
      (lasting_at i stage).lasts h.reached ht (hrely.sub nofun) hs⟩

theorem Insertion.Under.filed (h : i.Under handle stage t s) (hs : Sound i.slot.folder s) :
    ∃ folder, s.machine.disk.Leads i.slot.folder folder ∧ s.machine.disk.Tidy folder ∧
      Record.Filed ⟨i, stage⟩ s.machine.disk i.slot.folder folder i.slot.name := by
  obtain ⟨-, folder, -, -, hleads, -⟩ := h.gripping.grips
  obtain ⟨htidy, hfiled⟩ := hs.site.of_leads hleads
  have hentry := hfiled i.slot.name
  rw [h.gripping.ledger] at hentry
  exact ⟨folder, hleads, htidy, hentry⟩

theorem Insertion.Under.inTurn (h : i.Under handle stage t s) {action : Action}
    (haction : ∀ other, action ≠ .unlink other) : InTurn (some i) t s action where
  first _ _ other heq := absurd heq (haction other)
  current := by
    rintro _ ⟨rfl⟩ - -
    rw [h.gripping.ledger, h.reached.stage]

/-- What is done next, with no lock given up, brings the insertion to the next stage. -/
theorem Insertion.At.after (h : i.At stage t) (action : Action) (s : Tracked) :
    i.stage (Trace.deeds (s.moment action :: t)) =
      stage.after i ⟨action, (s.machine.perform action).1⟩ := by
  rw [Trace.deeds_cons, i.stage_cons h.unparted, h.stage]
  rfl

omit [Wire.Memory] in
theorem Pointing.steady {name : String} {appends : Bool} {s' : Tracked}
    (h : Pointing path name appends handle t s) (hname : ∀ other, name ≠ Slot.infoName other)
    (hsteady : Steady path [handle] s.machine s'.machine) (moment : Moment) :
    Pointing path name appends handle (moment :: t) s' := by
  obtain ⟨hmine, folder, node, lock, hfile, hleads, hentry⟩ := h
  exact ⟨Trace.mem_opened_cons hmine moment, folder, node, lock,
    (hsteady.files handle (List.mem_singleton_self handle)).trans hfile, hsteady.leads hleads,
    hsteady.entries hleads hentry hname⟩

/-- What is done to an open file leaves it the file of its name. -/
theorem Backed.perform {name : String} {action : Action} {insertion : Option Insertion}
    (h : Backed path name handle t s) (hname : ∀ other, name ≠ Slot.infoName other)
    (howned : Owned (Trace.opened t) s.machine) (hclose : action ≠ .closeFile handle)
    (hguarantee : Guarantee path (Trace.opened t) s (s.perform insertion t action)) :
    Backed path name handle (s.moment action :: t) (s.perform insertion t action) := by
  obtain ⟨hmine, folder, file, hfile, hleads, hentry⟩ := h
  obtain ⟨hlt, hdue⟩ := howned handle hmine
  have hbearing := Machine.bearing_perform hlt hdue action
  rw [hfile, if_neg hclose, Option.map_some] at hbearing
  obtain ⟨file', hfile', hsame⟩ := Option.map_eq_some_iff.mp hbearing
  have hnode : file'.node = file.node := congrArg Prod.fst hsame
  exact ⟨Trace.mem_opened_cons hmine _, folder, file', hfile', hguarantee.leads hleads,
    hnode ▸ hguarantee.entries hleads hentry hname⟩

end

/-! ### Emptying and filling a file -/

section

variable {m : Machine} {handle : Handle} {node : NodeId} {lock : Option LockMode}

theorem put_same {d : Disk} {value : Node} (h : d.node? node = some value) : d.put node value = d := by
  have hset : d.nodes.set node value = d.nodes := by
    obtain ⟨hlt, rfl⟩ := List.getElem?_eq_some_iff.mp h
    exact List.set_getElem_self hlt
  rw [Disk.put, hset]

theorem perform_setLength_zero {content : Bytes}
    (hfile : m.file? handle = some ⟨node, 0, false, lock⟩)
    (hnode : m.disk.node? node = some (.file content)) :
    (m.perform (.setLength handle 0)).1 = .ok () ∧
      (m.perform (.setLength handle 0)).2 = { m with disk := m.disk.put node (.file []) } := by
  simp [Machine.perform, Machine.setLength, hfile, hnode, Machine.resized]

/-- An empty file comes to have what is written to it. -/
theorem perform_write_empty (hfile : m.file? handle = some ⟨node, 0, false, lock⟩)
    (hnode : m.disk.node? node = some (.file [])) (bytes : Bytes) :
    (m.perform (.write handle bytes)).1 = .ok () ∧
      (m.perform (.write handle bytes)).2.disk = m.disk.put node (.file bytes) := by
  cases bytes with
  | nil =>
    rw [put_same hnode]
    simp [Machine.perform, Machine.write, hfile]
  | cons b bytes =>
    simp [Machine.perform, Machine.write, hfile, hnode, Machine.overwritten, Machine.resized,
      Machine.setFile]

theorem perform_sync {file : OpenFile} {content : Bytes} (hfile : m.file? handle = some file)
    (hnode : m.disk.node? file.node = some (.file content)) :
    (m.perform (.sync handle)).1 = .ok () := by
  simp only [Machine.perform, Machine.sync, hfile, hnode]

theorem openFile_replace {path : String} {disk : Disk} {content : Bytes}
    (hopening : m.opening path .replace = .ok (node, disk))
    (hnode : disk.node? node = some (.file content)) :
    m.perform (.openFile path .replace) = (.ok m.files.length,
      ({ m with disk := disk.put node (.file []) }.addFile { node }).2) := by
  simp only [Machine.perform, Machine.openFile, hopening, hnode]
  rfl

end

variable [Wire.Memory]

/-! ### Revisions of a slot's files -/

section

variable {i : Insertion} {stage stage' : Stage} {handle file : Handle} {t : Trace} {s : Tracked}
  {action : Action} {folder : NodeId} {disk : Disk}

/-- At these stages no legible info file is there. -/
theorem Record.info_iff (hstage : stage ≠ .whole) (hopened : stage ≠ .opened) {info : Option Bytes} :
    Record.Info ⟨i, stage⟩ info ↔ ∀ content ∈ info, Metadata.Illegible content := by
  cases stage <;> first | exact .rfl | contradiction

/-- A new content of the artifact, while no legible info file is there. -/
theorem Record.Filed.put_artifact {node : NodeId} {new : Bytes}
    (h : Record.Filed ⟨i, stage⟩ disk i.slot.folder folder i.slot.name) (htidy : disk.Tidy folder)
    (hentry : disk.child? folder (Slot.artifactName i.slot.name) = some node)
    (hstage : stage ≠ .whole) (hopened : stage ≠ .opened)
    (hstage' : stage' ≠ .whole) (hopened' : stage' ≠ .opened)
    (hdue : ∀ due ∈ Record.artifact? ⟨i, stage'⟩, new = due) :
    Record.Filed ⟨i, stage'⟩ (disk.put node (.file new)) i.slot.folder folder i.slot.name := by
  obtain ⟨old, hold⟩ := htidy.file trivial hentry
  refine ⟨h.fits, h.artifactNameable, h.infoNameable, h.lockNameable, ⟨new, ?_, hdue⟩, ?_⟩
  · rw [htidy.content?_put trivial hentry hold _ trivial, if_pos rfl]
  · rw [Record.info_iff hstage' hopened', htidy.content?_put trivial hentry hold _ trivial,
      if_neg fun heq => Slot.artifactName_ne_infoName _ _ heq.symm]
    exact (Record.info_iff hstage hopened).mp h.info

/-- A new content of the info file, the artifact being as it is to be. -/
theorem Record.Filed.put_info {node : NodeId} {new : Bytes}
    (h : Record.Filed ⟨i, stage⟩ disk i.slot.folder folder i.slot.name) (htidy : disk.Tidy folder)
    (hentry : disk.child? folder (Slot.infoName i.slot.name) = some node)
    (hdue : ∀ due ∈ Record.artifact? ⟨i, stage'⟩, due ∈ Record.artifact? ⟨i, stage⟩)
    (hinfo : Record.Info ⟨i, stage'⟩ (some new)) :
    Record.Filed ⟨i, stage'⟩ (disk.put node (.file new)) i.slot.folder folder i.slot.name := by
  obtain ⟨old, hold⟩ := htidy.file trivial hentry
  obtain ⟨content, hcontent, hartifact⟩ := h.artifact
  refine ⟨h.fits, h.artifactNameable, h.infoNameable, h.lockNameable, ⟨content, ?_, ?_⟩, ?_⟩
  · rw [htidy.content?_put trivial hentry hold _ trivial,
      if_neg (Slot.artifactName_ne_infoName _ _), hcontent]
  · exact fun due hmem => hartifact due (hdue due hmem)
  · rwa [htidy.content?_put trivial hentry hold _ trivial, if_pos rfl]

end

/-! ### Taking the info file away -/

/-- What holds after something that succeeds or fails. -/
def Settled {ε : Type} (P Q : Trace → Tracked → Prop) : Except ε Unit → Trace → Tracked → Prop
  | .ok () => Q
  | .error _ => P

/-- Whether an insertion has its slot's lock and the artifact open, with nothing changed yet. -/
structure Insertion.Ready (i : Insertion) (handle file : Handle) (t : Trace) (s : Tracked) :
    Prop where
  gripping : ∃ entry, Gripping i.slot.folder i.slot.name .exclusive handle entry t s
  pointing : Pointing i.slot.folder (Slot.artifactName i.slot.name) false file t s
  reached : i.At .untouched t

/-- What an insertion has to bring along. -/
structure Insertion.Able (i : Insertion) : Prop where
  fits : i.metadata.Fits
  artifact : Disk.Nameable i.slot.folder (Slot.artifactName i.slot.name)
  lock : Disk.Nameable i.slot.folder (Slot.lockName i.slot.name)

section

variable {i : Insertion} {parting : Trace → Tracked → Prop} {handle file : Handle}

theorem lasting_ready (i : Insertion) (handle file : Handle) :
    Lasting i.slot.folder (some i) false ([handle] ++ [file]) (i.Ready handle file) where
  opened h other hother := by
    obtain ⟨entry, hgrip⟩ := h.gripping
    rcases List.mem_append.mp hother with hother | hother
    · exact List.mem_singleton.mp hother ▸ hgrip.mine
    · exact List.mem_singleton.mp hother ▸ h.pointing.mine
  lasts h ht hrely hs := by
    obtain ⟨entry, hgrip⟩ := h.gripping
    refine ⟨⟨entry, (lasting_gripping _ _ _ handle entry).lasts hgrip ht
        (hrely.sub fun _ hother => List.mem_append_left [file] hother) hs⟩, ?_,
      (lasting_at i .untouched).lasts h.reached ht (hrely.sub nofun) hs⟩
    exact (lasting_pointing (Slot.artifactName_ne_infoName _) false file).lasts h.pointing ht
      (hrely.sub fun _ hother => List.mem_append_right [handle] hother) hs

/-- A slot whose info file is gone, at the stage after that. -/
theorem filed_removed {disk : Disk} {folder node : NodeId} (hable : i.Able)
    (hinfo : Disk.Nameable i.slot.folder (Slot.infoName i.slot.name)) (htidy : disk.Tidy folder)
    (hentry : disk.child? folder (Slot.artifactName i.slot.name) = some node)
    (hnone : disk.content? folder (Slot.infoName i.slot.name) = none) :
    Record.Filed ⟨i, .removed⟩ disk i.slot.folder folder i.slot.name := by
  obtain ⟨content, hcontent⟩ := htidy.content? trivial hentry
  refine ⟨hable.fits, hable.artifact, hinfo, hable.lock, ⟨content, hcontent, nofun⟩, ?_⟩
  show ∀ content ∈ disk.content? folder (Slot.infoName i.slot.name), Metadata.Illegible content
  rw [hnone]
  nofun

/-- What taking the info file away makes of the slot. -/
theorem revising_unlink {t : Trace} {s : Tracked} (hable : i.Able) (hs : Sound i.slot.folder s)
    (h : i.Ready handle file t s)
    (hgone : (s.machine.perform (.unlink i.slot.info)).1 = .ok () ∨
      (s.machine.perform (.unlink i.slot.info)).1 = .error .notFound) :
    ∃ folder, Revising i t s (.unlink i.slot.info) .removed folder := by
  obtain ⟨⟨entry, hgrip⟩, ⟨-, folder, node, -, -, hleads, hentry⟩, hreached⟩ := h
  obtain ⟨htidy, -⟩ := hs.site.of_leads hleads
  have hcomes : i.stage (Trace.deeds (s.moment (.unlink i.slot.info) :: t)) = .removed := by
    rw [hreached.after]
    rcases hgone with hreply | hreply <;> simp [Stage.after, Deed.removes, hreply]
  have hsame : i.stage (Trace.deeds t) = .removed → s.ledger i.slot.name = some ⟨i, .removed⟩ := by
    rw [hreached.stage]
    nofun
  have hrevising (hcan : Disk.Nameable i.slot.folder (Slot.infoName i.slot.name))
      (hwithin : s.machine.disk.Within (s.machine.perform (.unlink i.slot.info)).2.disk folder
        i.slot.name)
      (hnone : (s.machine.perform (.unlink i.slot.info)).2.disk.content? folder
        (Slot.infoName i.slot.name) = none) :
      Revising i t s (.unlink i.slot.info) .removed folder :=
    ⟨⟨handle, hgrip.mine, hgrip.grips⟩, nofun, hleads, hcomes, hsame, hwithin,
      filed_removed hable hcan hwithin.tidy
        (hwithin.entries (Slot.artifactName_ne_infoName _ _) hentry) hnone⟩
  refine ⟨folder, ?_⟩
  cases hunlink : s.machine.disk.unlink i.slot.info with
  | ok disk =>
    have hafter : s.machine.perform (.unlink i.slot.info) = (.ok (), { s.machine with disk }) := by
      rw [Machine.perform, hunlink, Machine.changeDisk]
    rw [i.slot.info_eq, Disk.unlink_join hleads htidy trivial i.slot.plain_infoName] at hunlink
    obtain ⟨hcan, rfl, id, hinfo⟩ := hunlink
    refine hrevising hcan ?_ ?_ <;> rw [hafter]
    · exact Disk.within_without htidy hinfo
    · rw [htidy.content?_without, if_pos rfl]
  | error e =>
    have hafter : s.machine.perform (.unlink i.slot.info) = (.error e, s.machine) := by
      rw [Machine.perform, hunlink, Machine.changeDisk]
    have hmissing : e = .notFound := by simpa [hafter] using hgone
    rw [hmissing, i.slot.info_eq,
      Disk.unlink_join_notFound hleads htidy trivial i.slot.plain_infoName] at hunlink
    obtain ⟨hcan, hfree⟩ := hunlink
    refine hrevising hcan ?_ ?_ <;> rw [hafter]
    · exact .refl htidy i.slot.name
    · rw [Disk.content?, hfree, Option.bind_none]

/-- Where the info file could not be taken away, nothing is changed. -/
theorem perform_unlink_failed {t : Trace} {s : Tracked} (h : i.At .untouched t) {path : String}
    (hleft : ¬ ((s.machine.perform (.unlink path)).1 = .ok () ∨
      (s.machine.perform (.unlink path)).1 = .error .notFound)) :
    s.perform (some i) t (.unlink path) = s ∧
      i.stage (Trace.deeds (s.moment (.unlink path) :: t)) = .untouched := by
  rw [not_or] at hleft
  have hstage : i.stage (Trace.deeds (s.moment (.unlink path) :: t)) = .untouched := by
    have hremoves : Deed.removes i.slot.info
        ⟨.unlink path, (s.machine.perform (.unlink path)).1⟩ = false := by
      cases hreply : (s.machine.perform (.unlink path)).1 with
      | ok u => exact absurd hreply hleft.1
      | error e => cases e <;> first | rfl | exact absurd hreply hleft.2
    rw [h.after]
    exact if_neg (by rw [hremoves]; exact Bool.false_ne_true)
  have hmachine : (s.machine.perform (.unlink path)).2 = s.machine := by
    cases hunlink : s.machine.disk.unlink path with
    | ok disk =>
      rw [Machine.perform, hunlink] at hleft
      exact absurd rfl hleft.1
    | error e => rw [Machine.perform, hunlink, Machine.changeDisk]
  have hledger : s.ledger.note (some i) (Trace.deeds t) (s.moment (.unlink path)).deed = s.ledger :=
    Ledger.note_of_stage (hstage.trans h.stage.symm) s.ledger
  refine ⟨?_, hstage⟩
  show Tracked.mk (s.machine.perform (.unlink path)).2 _ = s
  rw [hmachine]
  exact congrArg (Tracked.mk s.machine) hledger

theorem triple_unlink (hable : i.Able) :
    Triple i.slot.folder (some i) parting (i.Ready handle file)
      (Routine.perform (.unlink i.slot.info)) fun reply =>
        if reply = .ok () ∨ reply = .error .notFound then fun t s => i.Under handle .removed t s ∧
          Pointing i.slot.folder (Slot.artifactName i.slot.name) false file t s
        else i.Ready handle file := by
  refine .act (lasting_ready i handle file).stable fun t s hs howned hready => ?_
  obtain ⟨⟨entry, hgrip⟩, hpointing, hreached⟩ := id hready
  have hturn : InTurn (some i) t s (.unlink i.slot.info) := by
    refine ⟨?_, ?_⟩
    · rintro _ ⟨rfl⟩ - -
      exact ⟨hreached.stage, hreached.unparted⟩
    · rintro _ ⟨rfl⟩ hne
      exact absurd hreached.stage hne
  have hunparted :
      (Trace.deeds (s.moment (.unlink i.slot.info) :: t)).any Deed.unlocks = false := by
    rw [Trace.deeds_cons, List.any_cons, hreached.unparted]
    rfl
  by_cases hgone : (s.machine.perform (.unlink i.slot.info)).1 = .ok () ∨
      (s.machine.perform (.unlink i.slot.info)).1 = .error .notFound
  · obtain ⟨folder, hrevising⟩ := revising_unlink hable hs hready hgone
    refine ⟨nofun, hturn, fun part hcut => ?_, ?_⟩
    · cases hcut
      exact ⟨hrevising.sound hs, hrevising.guarantee⟩
    · rw [if_pos hgone]
      have hsteady : Steady i.slot.folder [file] s.machine _ := hrevising.steady howned
        fun other hother => List.mem_singleton.mp hother ▸ ⟨hpointing.mine, nofun⟩
      exact ⟨⟨hrevising.gripping howned hgrip nofun, hrevising.comes, hunparted⟩,
        hpointing.steady (Slot.artifactName_ne_infoName _) hsteady _⟩
  · obtain ⟨hkept, hstage⟩ := perform_unlink_failed hreached hgone
    refine ⟨nofun, hturn, fun part hcut => ?_, ?_⟩
    · cases hcut
      rw [hkept]
      exact ⟨hs, .refl _ _ s⟩
    · rw [if_neg hgone, hkept]
      refine (lasting_ready i handle file).lasts hready ⟨fun _ h => List.mem_cons_of_mem _ h, ?_,
        fun _ => hunparted.trans hreached.unparted.symm⟩ (.refl _ _ s) hs
      rintro _ ⟨rfl⟩
      exact hstage.trans hreached.stage.symm

theorem triple_removeInfo (hable : i.Able) :
    Triple i.slot.folder (some i) parting (i.Ready handle file) (Store.removeInfo i.slot.info)
      (Settled (i.Ready handle file) fun t s => i.Under handle .removed t s ∧
        Pointing i.slot.folder (Slot.artifactName i.slot.name) false file t s) := by
  refine .bind (triple_unlink hable) fun reply => ?_
  cases reply with
  | ok u => exact .done fun _ _ _ h => h
  | error e =>
    by_cases hmissing : e = .notFound
    · subst hmissing
      exact .done fun _ _ _ h => h
    · rw [if_neg (by simpa using hmissing)]
      cases e <;> first | exact .done fun _ _ _ h => h | exact absurd rfl hmissing

end

/-! ### Emptying and filling the artifact -/

section

variable {i : Insertion} {parting : Trace → Tracked → Prop} {handle file : Handle}
  {stage stage' : Stage} {t : Trace} {s : Tracked} {action : Action}

theorem Insertion.Under.revising (h : i.Under handle stage t s)
    (hmine : ∀ other ∈ action.handles, other ∈ Trace.opened t) {folder : NodeId}
    (hleads : s.machine.disk.Leads i.slot.folder folder)
    (hcomes : stage.after i ⟨action, (s.machine.perform action).1⟩ = stage')
    (hwithin : s.machine.disk.Within (s.machine.perform action).2.disk folder i.slot.name)
    (hfiled : Record.Filed ⟨i, stage'⟩ (s.machine.perform action).2.disk i.slot.folder folder
      i.slot.name) :
    Revising i t s action stage' folder where
  holds := ⟨handle, h.gripping.mine, h.gripping.grips⟩
  mine := hmine
  leads := hleads
  comes := (h.reached.after action s).trans hcomes
  same hsame := by rw [h.gripping.ledger, ← hsame, h.reached.stage]
  within := hwithin
  filed := hfiled

/-- An action that is a revision, however much of it is done. -/
theorem triple_revise {own : List Handle} {P : Trace → Tracked → Prop}
    {R : action.Reply → Trace → Tracked → Prop}
    (hP : Lasting i.slot.folder (some i) false own P)
    (hunder : ∀ {t s}, P t s → i.Under handle stage t s) (hunlink : ∀ path, action ≠ .unlink path)
    (hunlock : ∀ other, action ≠ .unlock other) (hapart : handle ∉ action.handles)
    (hrevising : ∀ {t s}, Sound i.slot.folder s → Owned (Trace.opened t) s.machine → P t s →
      (∀ part, action.Cut part → ∃ stage folder, Revising i t s part stage folder) ∧
      ∃ folder, Revising i t s action stage' folder)
    (hR : ∀ {t s}, Sound i.slot.folder s → Owned (Trace.opened t) s.machine → P t s →
      R (s.machine.perform action).1 (s.moment action :: t) (s.perform (some i) t action)) :
    Triple i.slot.folder (some i) parting P (Routine.perform action) fun reply t s =>
      i.Under handle stage' t s ∧ R reply t s := by
  refine .act hP.stable fun t s hs howned hPs => ?_
  obtain ⟨hparts, folder, hwhole⟩ := hrevising hs howned hPs
  refine ⟨fun other heq => absurd heq (hunlock other), (hunder hPs).inTurn hunlink,
    fun part hcut => ?_, ⟨hwhole.gripping howned (hunder hPs).gripping hapart, hwhole.comes, ?_⟩,
    hR hs howned hPs⟩
  · obtain ⟨stage, folder, hpart⟩ := hparts part hcut
    exact ⟨hpart.sound hs, hpart.guarantee⟩
  · have hdeed : (s.moment action).deed.unlocks = false := by
      cases action with
      | unlock other => exact absurd rfl (hunlock other)
      | _ => rfl
    rw [Trace.deeds_cons, List.any_cons, hdeed, (hunder hPs).reached.unparted]
    rfl

/-- The file behind an open file of the slot. -/
theorem Insertion.Under.behind (h : i.Under handle stage t s) (hs : Sound i.slot.folder s)
    {name : String} (hpointing : Pointing i.slot.folder name false file t s) :
    ∃ folder node lock content, s.machine.disk.Leads i.slot.folder folder ∧
      s.machine.disk.Tidy folder ∧
      Record.Filed ⟨i, stage⟩ s.machine.disk i.slot.folder folder i.slot.name ∧
      s.machine.file? file = some ⟨node, 0, false, lock⟩ ∧
      s.machine.disk.child? folder name = some node ∧
      s.machine.disk.node? node = some (.file content) ∧
      s.machine.disk.content? folder name = some content := by
  obtain ⟨folder, hleads, htidy, hfiled⟩ := h.filed hs
  obtain ⟨-, folder', node, lock, hfile, hleads', hentry⟩ := hpointing
  obtain rfl := hleads.unique hleads'
  obtain ⟨content, hcontent⟩ := htidy.file trivial hentry
  exact ⟨folder, node, lock, content, hleads, htidy, hfiled, hfile, hentry,
    Disk.fileContent?_eq_some.mp hcontent, (Disk.content?_of_child? hentry).trans hcontent⟩

theorem lasting_artifact (i : Insertion) (handle file : Handle) (stage : Stage) :
    Lasting i.slot.folder (some i) false ([handle] ++ [file]) fun t s => i.Under handle stage t s ∧
      Pointing i.slot.folder (Slot.artifactName i.slot.name) false file t s :=
  (lasting_under i handle stage).and (lasting_pointing (Slot.artifactName_ne_infoName _) false file)

theorem triple_empty (hapart : handle ≠ file) :
    Triple i.slot.folder (some i) parting (fun t s => i.Under handle .removed t s ∧
        Pointing i.slot.folder (Slot.artifactName i.slot.name) false file t s)
      (Routine.perform (.setLength file 0)) fun reply t s => i.Under handle .emptied t s ∧
        reply = .ok () ∧ Pointing i.slot.folder (Slot.artifactName i.slot.name) false file t s := by
  refine triple_revise (lasting_artifact i handle file .removed) (fun h => h.1) nofun nofun
    (by simpa [Action.handles] using hapart) (fun {t s} hs howned h => ?_) fun {t s} hs howned h => ?_
  · obtain ⟨hunder, hpointing⟩ := h
    obtain ⟨folder, node, lock, content, hleads, htidy, hfiled, hfile, hentry, hnode, -⟩ :=
      hunder.behind hs hpointing
    obtain ⟨hreply, hafter⟩ := perform_setLength_zero hfile hnode
    have hrevising : Revising i t s (.setLength file 0) .emptied folder := by
      refine hunder.revising (by simpa [Action.handles] using hpointing.mine) hleads ?_ ?_ ?_
      · simp [Stage.after, Deed.empties, hreply]
      · rw [hafter]
        exact Disk.within_put htidy (.inl rfl) hentry []
      · rw [hafter]
        refine hfiled.put_artifact htidy hentry nofun nofun nofun nofun ?_
        rintro _ ⟨rfl⟩
        rfl
    refine ⟨fun part hcut => ?_, folder, hrevising⟩
    cases hcut
    exact ⟨.emptied, folder, hrevising⟩
  · obtain ⟨hunder, hpointing⟩ := h
    obtain ⟨folder, node, lock, content, hleads, htidy, hfiled, hfile, hentry, hnode, -⟩ :=
      hunder.behind hs hpointing
    obtain ⟨hreply, hafter⟩ := perform_setLength_zero hfile hnode
    obtain ⟨old, hold⟩ := htidy.file trivial hentry
    refine ⟨hreply, Trace.mem_opened_cons hpointing.mine _, folder, node, lock, ?_⟩
    have hmachine : (s.perform (some i) t (.setLength file 0)).machine = _ := hafter
    rw [hmachine]
    exact ⟨hfile, hleads.grows (Disk.grows_put hold []), by rw [Disk.child?_put hold, hentry]⟩

/-- Writing the artifact, or the first part of it. -/
theorem revising_write_artifact (hs : Sound i.slot.folder s) (h : i.Under handle .emptied t s)
    (hpointing : Pointing i.slot.folder (Slot.artifactName i.slot.name) false file t s)
    (bytes : Bytes) :
    (s.machine.perform (.write file bytes)).1 = .ok () ∧ ∃ folder,
      Revising i t s (.write file bytes) (if bytes = i.artifact then .filled else .removed) folder := by
  obtain ⟨folder, node, lock, content, hleads, htidy, hfiled, hfile, hentry, hnode, hcontent⟩ :=
    h.behind hs hpointing
  have hempty : content = [] := by
    obtain ⟨content', hcontent', hdue⟩ := hfiled.artifact
    rw [hcontent] at hcontent'
    cases hcontent'
    exact hdue [] rfl
  subst hempty
  obtain ⟨hreply, hafter⟩ := perform_write_empty hfile hnode bytes
  refine ⟨hreply, folder, h.revising (by simpa [Action.handles] using hpointing.mine) hleads ?_ ?_ ?_⟩
  · simp [Stage.after, Deed.written?, hreply]
  · rw [hafter]
    exact Disk.within_put htidy (.inl rfl) hentry bytes
  · rw [hafter]
    refine hfiled.put_artifact htidy hentry nofun nofun ?_ ?_ ?_
    · split <;> nofun
    · split <;> nofun
    · split
      · rename_i hbytes
        rintro _ ⟨rfl⟩
        exact hbytes
      · nofun

theorem triple_fill (hapart : handle ≠ file) :
    Triple i.slot.folder (some i) parting (fun t s => i.Under handle .emptied t s ∧
        Pointing i.slot.folder (Slot.artifactName i.slot.name) false file t s)
      (Routine.perform (.write file i.artifact)) fun reply t s => i.Under handle .filled t s ∧
        reply = .ok () ∧ Backed i.slot.folder (Slot.artifactName i.slot.name) file t s := by
  refine triple_revise (lasting_artifact i handle file .emptied) (fun h => h.1) nofun nofun
    (by simpa [Action.handles] using hapart) (fun {t s} hs howned h => ?_) fun {t s} hs howned h => ?_
  · have hwrite := revising_write_artifact hs h.1 h.2
    refine ⟨fun part hcut => ?_, by simpa using (hwrite i.artifact).2⟩
    cases hcut with
    | whole => exact ⟨_, (hwrite i.artifact).2⟩
    | part _ _ size => exact ⟨_, (hwrite (i.artifact.take size)).2⟩
  · obtain ⟨hreply, folder, hrevising⟩ := revising_write_artifact hs h.1 h.2 i.artifact
    exact ⟨hreply, h.2.backed.perform (Slot.artifactName_ne_infoName _) howned nofun
      hrevising.guarantee⟩

/-- What was written to the artifact can be kept. -/
theorem triple_sync (hapart : handle ≠ file) :
    Triple i.slot.folder (some i) parting (fun t s => i.Under handle .filled t s ∧
        Backed i.slot.folder (Slot.artifactName i.slot.name) file t s)
      (Routine.perform (.sync file)) fun reply t s => i.Under handle .filled t s ∧
        reply = .ok () := by
  have hunder := lasting_under i handle .filled
  have hbacked : Lasting i.slot.folder (some i) false [file]
      (Backed i.slot.folder (Slot.artifactName i.slot.name) file) :=
    lasting_backed (Slot.artifactName_ne_infoName _) file
  have haction : (Action.sync file).Harmless i.slot.folder := trivial
  refine .harmless (hunder.and hbacked).stable haction (fun h other hother => ?_) (fun _ _ => nofun)
    fun {t s} hs howned h => ⟨hunder.harmless haction (fun _ => nofun) (fun other hother hmem => ?_)
      hs howned h.1, ?_⟩
  · exact List.mem_singleton.mp hother ▸ h.2.mine
  · exact hapart ((List.mem_singleton.mp hother).symm.trans (List.mem_singleton.mp hmem))
  · obtain ⟨-, folder, open_, hfile, hleads, hentry⟩ := h.2
    obtain ⟨htidy, -⟩ := hs.site.of_leads hleads
    obtain ⟨content, hcontent⟩ := htidy.file trivial hentry
    exact perform_sync hfile (Disk.fileContent?_eq_some.mp hcontent)

end

/-! ### Making the new info file -/

section

variable {i : Insertion} {parting : Trace → Tracked → Prop} {handle file : Handle}
  {t : Trace} {s : Tracked}

/-- An info file that is asked for anew is there, and empty. -/
theorem ensureFile_info {disk : Disk} {folder : NodeId} (hleads : disk.Leads i.slot.folder folder)
    (htidy : disk.Tidy folder)
    (hfiled : Record.Filed ⟨i, .filled⟩ disk i.slot.folder folder i.slot.name) :
    ∃ node disk' content, disk.ensureFile i.slot.info = .ok (node, disk') ∧
      disk.Within disk' folder i.slot.name ∧
      disk'.child? folder (Slot.infoName i.slot.name) = some node ∧
      disk'.node? node = some (.file content) ∧
      Record.Filed ⟨i, .filled⟩ disk' i.slot.folder folder i.slot.name := by
  have hname := i.slot.plain_infoName
  cases hentry : disk.child? folder (Slot.infoName i.slot.name) with
  | some node =>
    obtain ⟨content, hcontent⟩ := htidy.file trivial hentry
    have hensure : disk.ensureFile i.slot.info = .ok (node, disk) := by
      rw [i.slot.info_eq, Disk.ensureFile_join hleads htidy trivial hname]
      exact ⟨hfiled.infoNameable, .inl ⟨hentry, rfl⟩⟩
    exact ⟨node, disk, content, hensure, .refl htidy _, hentry,
      Disk.fileContent?_eq_some.mp hcontent, hfiled⟩
  | none =>
    have hvacancy := Disk.vacancy_iff.mpr ⟨hfiled.infoNameable.2, htidy.isFolder, hentry⟩
    have hwithin := Disk.within_add htidy hvacancy
    have hadded : disk.Added (.file []) (disk.add folder (Slot.infoName i.slot.name) (.file [])) :=
      ⟨folder, _, hvacancy, rfl⟩
    have hensure : disk.ensureFile i.slot.info =
        .ok (disk.nodes.length, disk.add folder (Slot.infoName i.slot.name) (.file [])) := by
      rw [i.slot.info_eq, Disk.ensureFile_join hleads htidy trivial hname]
      exact ⟨hfiled.infoNameable, .inr ⟨hentry, rfl, rfl⟩⟩
    have hnew := Disk.child?_of_ensureFile hleads htidy trivial hname (i.slot.info_eq ▸ hensure)
    have hkept : Filed (some ⟨i, .filled⟩) (disk.add folder (Slot.infoName i.slot.name) (.file []))
        i.slot.folder folder i.slot.name := by
      have hfiled : Filed (some ⟨i, .filled⟩) disk i.slot.folder folder i.slot.name := hfiled
      refine hfiled.congr (fun content hcontent => ?_) (htidy.content?_added hadded _ trivial)
      rcases htidy.content?_added hadded (Slot.artifactName i.slot.name) trivial with
        hsame | ⟨hnone, -⟩
      · rw [hsame, hcontent]
      · rw [hnone] at hcontent
        cases hcontent
    exact ⟨_, _, [], hensure, hwithin, hnew.2,
      Disk.fileContent?_eq_some.mp hadded.fileContent?_new, hkept⟩

theorem triple_renew :
    Triple i.slot.folder (some i) parting (i.Under handle .filled)
      (Routine.perform (.openFile i.slot.info .replace)) fun reply t s =>
        i.Under handle .opened t s ∧ ∃ file, reply = .ok file ∧ handle ≠ file ∧
          Pointing i.slot.folder (Slot.infoName i.slot.name) false file t s := by
  refine triple_revise (lasting_under i handle .filled) (fun h => h) nofun nofun nofun
    (fun {t s} hs howned h => ?_) fun {t s} hs howned h => ?_
  all_goals
    obtain ⟨folder, hleads, htidy, hfiled⟩ := h.filed hs
    obtain ⟨node, disk, content, hensure, hwithin, hentry, hnode, hfiled'⟩ :=
      ensureFile_info hleads htidy hfiled
    have hopening :=
      (Machine.opening_made .replace (by decide) (by decide)).mpr ⟨hs.unrestricted _ _, hensure⟩
    have hafter := openFile_replace hopening hnode
    have hput := Disk.within_put hwithin.tidy (.inr rfl) hentry []
  · have hrevising : Revising i t s (.openFile i.slot.info .replace) .opened folder := by
      refine h.revising (by simp [Action.handles]) hleads ?_ ?_ ?_
      · simp [Stage.after, Deed.renews, hafter]
      · rw [hafter]
        exact hwithin.trans hput
      · rw [hafter]
        exact hfiled'.put_info hwithin.tidy hentry (fun due hdue => hdue) rfl
    refine ⟨fun part hcut => ?_, folder, hrevising⟩
    cases hcut
    exact ⟨.opened, folder, hrevising⟩
  · refine ⟨s.machine.files.length, by rw [hafter], ?_, ?_, folder, node, none, ?_⟩
    · exact Nat.ne_of_lt (howned handle h.gripping.mine).1
    · have hopened : (s.moment (.openFile i.slot.info .replace)).deed.opened? =
          some s.machine.files.length := by
        simp only [Tracked.moment, hafter, Deed.opened?]
      rw [Trace.opened_cons_of_some hopened]
      exact List.mem_cons_self
    · have hmachine : (s.perform (some i) t (.openFile i.slot.info .replace)).machine =
          ({ s.machine with disk := disk.put node (.file []) }.addFile { node }).2 :=
        congrArg Prod.snd hafter
      obtain ⟨old, hold⟩ := hwithin.tidy.file trivial hentry
      rw [hmachine, Machine.file?_addFile]
      exact ⟨if_pos rfl, hleads.grows (hwithin.grows.trans hput.grows),
        (Disk.child?_put hold _).trans hentry⟩

/-- Writing the info file, or the first part of it. -/
theorem revising_write_info (hs : Sound i.slot.folder s) (h : i.Under handle .opened t s)
    (hpointing : Pointing i.slot.folder (Slot.infoName i.slot.name) false file t s) {bytes : Bytes}
    (hbytes : bytes ≠ i.metadata.encode → Metadata.Illegible bytes) :
    (s.machine.perform (.write file bytes)).1 = .ok () ∧ ∃ folder,
      Revising i t s (.write file bytes) (if bytes = i.metadata.encode then .whole else .removed)
        folder := by
  obtain ⟨folder, node, lock, content, hleads, htidy, hfiled, hfile, hentry, hnode, hcontent⟩ :=
    h.behind hs hpointing
  have hempty : content = [] := by
    have hinfo : s.machine.disk.content? folder (Slot.infoName i.slot.name) = some [] := hfiled.info
    rw [hcontent] at hinfo
    exact Option.some.inj hinfo
  subst hempty
  obtain ⟨hreply, hafter⟩ := perform_write_empty hfile hnode bytes
  refine ⟨hreply, folder, h.revising (by simpa [Action.handles] using hpointing.mine) hleads ?_ ?_ ?_⟩
  · simp [Stage.after, Deed.written?, hreply]
  · rw [hafter]
    exact Disk.within_put htidy (.inr rfl) hentry bytes
  · rw [hafter]
    refine hfiled.put_info htidy hentry ?_ ?_
    · split
      · exact fun due hdue => hdue
      · nofun
    · by_cases hwhole : bytes = i.metadata.encode
      · rw [if_pos hwhole, hwhole]
        rfl
      · rw [if_neg hwhole]
        rintro _ ⟨rfl⟩
        exact hbytes hwhole

theorem triple_inform (hfits : i.metadata.Fits) (hapart : handle ≠ file) :
    Triple i.slot.folder (some i) parting (fun t s => i.Under handle .opened t s ∧
        Pointing i.slot.folder (Slot.infoName i.slot.name) false file t s)
      (Routine.perform (.write file i.metadata.encode)) fun reply t s =>
        i.Under handle .whole t s ∧ reply = .ok () := by
  have hlasting := (lasting_under i handle .opened).pointing_info (List.mem_singleton_self handle)
    (fun h => h.gripping) false file
  refine triple_revise hlasting (fun h => h.1) nofun nofun
    (by simpa [Action.handles] using hapart) (fun {t s} hs howned h => ?_) fun {t s} hs howned h =>
      (revising_write_info hs h.1 h.2 fun hne => absurd rfl hne).1
  have hwhole := revising_write_info hs h.1 h.2 fun hne => absurd rfl hne
  refine ⟨fun part hcut => ?_, by simpa using hwhole.2⟩
  cases hcut with
  | whole => exact ⟨_, hwhole.2⟩
  | part _ _ size =>
    exact ⟨_, (revising_write_info hs h.1 h.2 fun hne => Metadata.illegible_take hfits hne).2⟩

end

end ScriptCache
