import Mathlib
import ScriptCache.Proofs.Store.Gripping

/-! What an insertion does to its slot, one action at a time.

Every action of an insertion that changes the disk changes its own slot only (`Disk.Within`): it
takes the info file away, adds one, or gives the artifact or the info file another content. When
such an action is taken under the slot's exclusive lock and the slot comes to be as the stage
that the insertion has come to says (`Revising`), the ledger stays true and the party keeps its
guarantee; the lock is kept, and the ledger tells of the insertion. -/
namespace ScriptCache

/-! ### Changes within one slot -/

/-- Whether a disk is another but for the slot of a name, from whose folder only the slot's info
file may be gone. -/
structure Disk.Within (d d' : Disk) (folder : NodeId) (name : String) : Prop where
  grows : d.Grows d'
  tidy : d'.Tidy folder
  entries : ∀ {part id}, part ≠ Slot.infoName name → d.child? folder part = some id →
    d'.child? folder part = some id
  others : ∀ {part}, part ≠ Slot.artifactName name → part ≠ Slot.infoName name →
    d'.content? folder part = d.content? folder part

namespace Disk

variable {d d' d'' : Disk} {folder : NodeId} {name part : String} {id : NodeId}

theorem Within.refl (htidy : d.Tidy folder) (name : String) : d.Within d folder name :=
  ⟨.refl d, htidy, fun _ h => h, fun _ _ => rfl⟩

theorem Within.trans (h : d.Within d' folder name) (h' : d'.Within d'' folder name) :
    d.Within d'' folder name where
  grows := h.grows.trans h'.grows
  tidy := h'.tidy
  entries hpart hentry := h'.entries hpart (h.entries hpart hentry)
  others hartifact hinfo := (h'.others hartifact hinfo).trans (h.others hartifact hinfo)

theorem within_without (htidy : d.Tidy folder)
    (hentry : d.child? folder (Slot.infoName name) = some id) :
    d.Within (d.without folder (Slot.infoName name)) folder name := by
  obtain ⟨content, hfile⟩ := htidy.file trivial hentry
  refine ⟨grows_without hentry hfile, htidy.without _, fun hpart hother => ?_, fun _ hinfo => ?_⟩
  · rw [child?_without htidy.isFolder, if_neg hpart, hother]
  · rw [htidy.content?_without, if_neg hinfo]

theorem within_put (htidy : d.Tidy folder)
    (hpart : part = Slot.artifactName name ∨ part = Slot.infoName name)
    (hentry : d.child? folder part = some id) (new : Bytes) :
    d.Within (d.put id (.file new)) folder name := by
  obtain ⟨content, hfile⟩ := htidy.file trivial hentry
  refine ⟨grows_put hfile new, htidy.put hfile new, fun _ hother => ?_, fun hartifact hinfo => ?_⟩
  · rw [child?_put hfile, hother]
  · rw [htidy.content?_put trivial hentry hfile _ trivial, if_neg]
    rintro rfl
    exact hpart.elim hartifact hinfo

theorem within_add (htidy : d.Tidy folder) (hvacancy : d.Vacancy folder (Slot.infoName name)) :
    d.Within (d.add folder (Slot.infoName name) (.file [])) folder name := by
  have hadded : d.Added (.file []) (d.add folder (Slot.infoName name) (.file [])) :=
    ⟨folder, Slot.infoName name, hvacancy, rfl⟩
  have hentries {other : String} (hother : other ≠ Slot.infoName name) :
      (d.add folder (Slot.infoName name) (.file [])).child? folder other = d.child? folder other := by
    rw [child?_add hvacancy htidy.isFolder, if_neg fun h => hother h.2]
  refine ⟨hadded.grows, htidy.added hadded, fun hpart hentry => (hentries hpart).trans hentry,
    fun {other} _ hinfo => ?_⟩
  cases hentry : d.child? folder other with
  | none => simp only [content?, hentries hinfo, hentry, Option.bind_none]
  | some id =>
    obtain ⟨content, hfile⟩ := htidy.file trivial hentry
    rw [content?_of_child? ((hentries hinfo).trans hentry), content?_of_child? hentry,
      hadded.fileContent? hfile, hfile]

end Disk

/-! ### Actions under the slot's lock -/

variable [Wire.Memory]

/-- Whether an action of an insertion, taken under the slot's lock, brings the slot to be as a
stage has it. -/
structure Revising (i : Insertion) (t : Trace) (s : Tracked) (action : Action) (stage : Stage)
    (folder : NodeId) : Prop where
  holds : Holds i.slot.folder (Trace.opened t) i.slot.name .exclusive s.machine
  mine : ∀ handle ∈ action.handles, handle ∈ Trace.opened t
  leads : s.machine.disk.Leads i.slot.folder folder
  comes : i.stage (Trace.deeds (s.moment action :: t)) = stage
  same : i.stage (Trace.deeds t) = stage → s.ledger i.slot.name = some ⟨i, stage⟩
  within : s.machine.disk.Within (s.machine.perform action).2.disk folder i.slot.name
  filed : Record.Filed ⟨i, stage⟩ (s.machine.perform action).2.disk i.slot.folder folder i.slot.name

namespace Revising

variable {i : Insertion} {t : Trace} {s : Tracked} {action : Action} {stage : Stage}
  {folder : NodeId}

theorem ledger (h : Revising i t s action stage folder) :
    (s.perform (some i) t action).ledger = s.ledger.set i.slot.name ⟨i, stage⟩ := by
  by_cases hstage : i.stage (Trace.deeds t) = stage
  · have hsame : i.stage (Trace.deeds (s.moment action :: t)) = i.stage (Trace.deeds t) :=
      h.comes.trans hstage.symm
    have hnote : (s.perform (some i) t action).ledger = s.ledger := Ledger.note_of_stage hsame _
    rw [hnote]
    funext other
    by_cases hother : other = i.slot.name
    · rw [hother, Ledger.set_same, h.same hstage]
    · rw [Ledger.set_other hother]
  · have hne : i.stage (Trace.deeds (s.moment action :: t)) ≠ i.stage (Trace.deeds t) :=
      fun heq => hstage (heq.symm.trans h.comes)
    rw [← h.comes]
    exact Ledger.note_of_ne hne s.ledger

theorem sound (h : Revising i t s action stage folder) (hs : Sound i.slot.folder s) :
    Sound i.slot.folder (s.perform (some i) t action) := by
  refine ⟨hs.locks.perform action, hs.frame (Machine.frame_perform s.machine action),
    hs.unrestricted.perform action, ?_⟩
  rw [h.ledger]
  refine hs.site.change h.leads h.within.grows h.within.tidy (fun other hother => ?_) h.filed
  exact ⟨h.within.others (fun heq => hother (Slot.artifactName_injective heq))
      (Slot.artifactName_ne_infoName _ _),
    h.within.others (fun heq => Slot.artifactName_ne_infoName _ _ heq.symm)
      fun heq => hother (Slot.infoName_injective heq)⟩

theorem guarantee (h : Revising i t s action stage folder) :
    Guarantee i.slot.folder (Trace.opened t) s (s.perform (some i) t action) := by
  refine { frame := (Machine.frame_perform s.machine action).mono h.mine,
           leads := fun hleads => hleads.grows h.within.grows,
           entries := fun hleads hentry hname => ?_, info := fun {_ name _} hleads hentry => ?_,
           ledger := fun name => ?_ }
  · obtain rfl := hleads.unique h.leads
    exact h.within.entries (hname i.slot.name) hentry
  · obtain rfl := hleads.unique h.leads
    by_cases hname : name = i.slot.name
    · exact .inr (hname ▸ h.holds)
    · exact .inl (h.within.entries (fun heq => hname (Slot.infoName_injective heq)) hentry)
  · by_cases hname : name = i.slot.name
    · exact .inr (hname ▸ h.holds)
    · left
      rw [h.ledger, Ledger.set_other hname]

/-- What is known of an open file that the action does not touch is still so. -/
theorem steady (h : Revising i t s action stage folder)
    (howned : Owned (Trace.opened t) s.machine) {own : List Handle}
    (hown : ∀ handle ∈ own, handle ∈ Trace.opened t ∧ handle ∉ action.handles) :
    Steady i.slot.folder own s.machine (s.perform (some i) t action).machine where
  files handle hmem := by
    obtain ⟨hmine, hapart⟩ := hown handle hmem
    obtain ⟨hlt, hreleases⟩ := howned handle hmine
    exact (Machine.frame_perform s.machine action).kept hlt hapart hreleases
  leads hleads := hleads.grows h.within.grows
  entries hleads hentry hname := by
    obtain rfl := hleads.unique h.leads
    exact h.within.entries (hname i.slot.name) hentry

/-- The slot stays gripped, and the ledger tells of the insertion. -/
theorem gripping (h : Revising i t s action stage folder)
    (howned : Owned (Trace.opened t) s.machine) {handle : Handle} {entry : Option Record}
    (hgrip : Gripping i.slot.folder i.slot.name .exclusive handle entry t s)
    (hapart : handle ∉ action.handles) :
    Gripping i.slot.folder i.slot.name .exclusive handle (some ⟨i, stage⟩)
      (s.moment action :: t) (s.perform (some i) t action) := by
  have hsteady : Steady i.slot.folder [handle] s.machine (s.perform (some i) t action).machine :=
    h.steady howned fun other hother => List.mem_singleton.mp hother ▸ ⟨hgrip.mine, hapart⟩
  refine ⟨Trace.mem_opened_cons hgrip.mine _,
    hsteady.grips (List.mem_singleton_self handle) hgrip.grips, ?_⟩
  rw [h.ledger, Ledger.set_same]

end Revising

end ScriptCache
