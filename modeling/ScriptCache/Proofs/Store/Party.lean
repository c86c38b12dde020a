import Mathlib
import ScriptCache.Proofs.Store.Ledger

/-! Parties at work in one cache folder.

Several parties take actions on one machine, each at its own pace. What others may have done
since a party's last action is its `Rely`: they left its open files alone, and kept what the
ledger says of a slot while the party holds a lock on it. What a party does to the others is its
`Guarantee`: it changes a slot, and what the ledger says of it, only under an exclusive lock.
Because locks on one file never exclude each other, one party's guarantee is what the others
rely on (`Guarantee.rely`).

A routine is `Safe` for a party when each of its actions keeps the ledger true and the
guarantee, whatever the others did before it, even if it is a write that is cut short. -/
namespace ScriptCache

/-! ### What a party remembers -/

/-- A deed, and the ledger before it. -/
structure Moment where
  deed : Deed
  before : Ledger

/-- What a party did so far, the latest first. -/
abbrev Trace := List Moment

namespace Trace

def deeds (t : Trace) : List Deed :=
  t.map (·.deed)

/-- The files that were opened. -/
def opened (t : Trace) : List Handle :=
  t.filterMap (·.deed.opened?)

@[simp] theorem deeds_cons (moment : Moment) (t : Trace) :
    deeds (moment :: t) = moment.deed :: deeds t := rfl

theorem opened_cons_of_some {moment : Moment} {handle : Handle}
    (h : moment.deed.opened? = some handle) (t : Trace) :
    opened (moment :: t) = handle :: opened t := by
  simp [opened, h]

theorem opened_cons_of_none {moment : Moment} (h : moment.deed.opened? = none) (t : Trace) :
    opened (moment :: t) = opened t := by
  simp [opened, h]

theorem mem_opened_cons {handle : Handle} {t : Trace} (h : handle ∈ opened t) (moment : Moment) :
    handle ∈ opened (moment :: t) := by
  cases hopened : moment.deed.opened? with
  | none => rwa [opened_cons_of_none hopened]
  | some other =>
    rw [opened_cons_of_some hopened]
    exact List.mem_cons_of_mem other h

end Trace

namespace Tracked

/-- An action, with what it adds to the ledger as part of an insertion. -/
def perform [Wire.Memory] (s : Tracked) (i : Option Insertion) (t : Trace) (action : Action) :
    Tracked where
  machine := (s.machine.perform action).2
  ledger := s.ledger.note i (Trace.deeds t) ⟨action, (s.machine.perform action).1⟩

/-- What is remembered of an action. -/
def moment (s : Tracked) (action : Action) : Moment :=
  ⟨⟨action, (s.machine.perform action).1⟩, s.ledger⟩

end Tracked

/-! ### Locks on slots -/

/-- Whether an open file is a slot's lock file, locked. -/
def Grips (path name : String) (mode : LockMode) (m : Machine) (handle : Handle) : Prop :=
  ∃ file folder, m.file? handle = some file ∧ file.lock = some mode ∧
    m.disk.Leads path folder ∧ m.disk.child? folder (Slot.lockName name) = some file.node

/-- Whether one of some open files is a slot's lock file, locked. -/
def Holds (path : String) (own : List Handle) (name : String) (mode : LockMode) (m : Machine) :
    Prop :=
  ∃ handle ∈ own, Grips path name mode m handle

/-- Two open files that grip one slot do so in modes that go together. -/
theorem Grips.compatible {path name : String} {mode mode' : LockMode} {m : Machine}
    {handle handle' : Handle} (hlocks : m.LocksApart) (h : Grips path name mode m handle)
    (h' : Grips path name mode' m handle') (hne : handle ≠ handle') :
    mode.excludes mode' = false := by
  obtain ⟨file, folder, hfile, hlock, hleads, hentry⟩ := h
  obtain ⟨file', folder', hfile', hlock', hleads', hentry'⟩ := h'
  obtain rfl := hleads.unique hleads'
  rw [hentry] at hentry'
  exact hlocks.apart hne hfile hfile' (Option.some.inj hentry') hlock hlock'

/-! ### What others do, and what is done to them -/

/-- Whether a machine kept some open files, the way to the cache folder, and every file in it
but info files. -/
structure Steady (path : String) (own : List Handle) (m m' : Machine) : Prop where
  files : ∀ handle ∈ own, m'.file? handle = m.file? handle
  leads : ∀ {folder}, m.disk.Leads path folder → m'.disk.Leads path folder
  entries : ∀ {folder name id}, m.disk.Leads path folder →
    m.disk.child? folder name = some id → (∀ other, name ≠ Slot.infoName other) →
    m'.disk.child? folder name = some id

/-- What a party can rely on while others act. -/
structure Rely (path : String) (own : List Handle) (s s' : Tracked) : Prop extends
    Steady path own s.machine s'.machine where
  length : s.machine.files.length ≤ s'.machine.files.length
  releases : ∀ release ∈ s'.machine.releases, release ∈ s.machine.releases
  info : ∀ {folder name mode id}, s.machine.disk.Leads path folder →
    Holds path own name mode s.machine →
    s.machine.disk.child? folder (Slot.infoName name) = some id →
    s'.machine.disk.child? folder (Slot.infoName name) = some id
  ledger : ∀ {name mode}, Holds path own name mode s.machine → s'.ledger name = s.ledger name

/-- What a party does to the others. -/
structure Guarantee (path : String) (own : List Handle) (s s' : Tracked) : Prop where
  frame : Machine.Frame own s.machine s'.machine
  leads : ∀ {folder}, s.machine.disk.Leads path folder → s'.machine.disk.Leads path folder
  entries : ∀ {folder name id}, s.machine.disk.Leads path folder →
    s.machine.disk.child? folder name = some id → (∀ other, name ≠ Slot.infoName other) →
    s'.machine.disk.child? folder name = some id
  info : ∀ {folder name id}, s.machine.disk.Leads path folder →
    s.machine.disk.child? folder (Slot.infoName name) = some id →
    s'.machine.disk.child? folder (Slot.infoName name) = some id ∨
      Holds path own name .exclusive s.machine
  ledger : ∀ name, s'.ledger name = s.ledger name ∨ Holds path own name .exclusive s.machine

/-- Whether some open files are there to stay until they are closed by who opened them. -/
def Owned (own : List Handle) (m : Machine) : Prop :=
  ∀ handle ∈ own, handle < m.files.length ∧ handle ∉ m.releases.map Prod.snd

section

variable {path : String} {own : List Handle}

theorem Steady.grips {m m' : Machine} (h : Steady path own m m') {name : String} {mode : LockMode}
    {handle : Handle} (hown : handle ∈ own) (hgrips : Grips path name mode m handle) :
    Grips path name mode m' handle := by
  obtain ⟨file, folder, hfile, hlock, hleads, hentry⟩ := hgrips
  refine ⟨file, folder, (h.files handle hown).trans hfile, hlock, h.leads hleads, ?_⟩
  exact h.entries hleads hentry fun other heq => Slot.infoName_ne_lockName other name heq.symm

theorem Steady.holds {m m' : Machine} (h : Steady path own m m') {name : String}
    {mode : LockMode} (hholds : Holds path own name mode m) : Holds path own name mode m' := by
  obtain ⟨handle, hown, hgrips⟩ := hholds
  exact ⟨handle, hown, h.grips hown hgrips⟩

theorem Rely.refl (path : String) (own : List Handle) (s : Tracked) : Rely path own s s where
  files _ _ := rfl
  leads h := h
  entries _ h _ := h
  length := Nat.le_refl _
  releases _ h := h
  info _ _ h := h
  ledger _ := rfl

theorem Rely.trans {s s' s'' : Tracked} (h : Rely path own s s') (h' : Rely path own s' s'') :
    Rely path own s s'' where
  files handle hown := (h'.files handle hown).trans (h.files handle hown)
  leads hleads := h'.leads (h.leads hleads)
  entries hleads hentry hname := h'.entries (h.leads hleads) (h.entries hleads hentry hname) hname
  length := Nat.le_trans h.length h'.length
  releases release hrelease := h.releases release (h'.releases release hrelease)
  info hleads hholds hentry :=
    h'.info (h.leads hleads) (h.toSteady.holds hholds) (h.info hleads hholds hentry)
  ledger hholds := (h'.ledger (h.toSteady.holds hholds)).trans (h.ledger hholds)

theorem Owned.rely {s s' : Tracked} (h : Owned own s.machine) (hrely : Rely path own s s') :
    Owned own s'.machine := by
  intro handle hown
  obtain ⟨hlt, hreleases⟩ := h handle hown
  refine ⟨Nat.lt_of_lt_of_le hlt hrely.length, fun hmem => hreleases ?_⟩
  obtain ⟨release, hrelease, rfl⟩ := List.mem_map.mp hmem
  exact List.mem_map_of_mem (hrely.releases release hrelease)

theorem Guarantee.refl (path : String) (own : List Handle) (s : Tracked) :
    Guarantee path own s s where
  frame := ⟨Nat.le_refl _, fun _ _ _ => .inl rfl, fun _ h => h⟩
  leads h := h
  entries _ h _ := h
  info _ h := .inl h
  ledger _ := .inl rfl

/-- What a party guarantees is what the others rely on. -/
theorem Guarantee.rely [Wire.Memory] {s s' : Tracked} (h : Guarantee path own s s') (hs : Sound path s)
    {others : List Handle} (howned : Owned others s.machine)
    (hapart : ∀ handle ∈ others, handle ∉ own) : Rely path others s s' := by
  have hexclusive {name : String} {mode : LockMode} (hholds : Holds path others name mode s.machine) :
      ¬ Holds path own name .exclusive s.machine := by
    rintro ⟨handle, hown, hgrips⟩
    obtain ⟨handle', hother, hgrips'⟩ := hholds
    have hne : handle' ≠ handle := fun heq => hapart handle' hother (heq ▸ hown)
    have hcompatible := hgrips'.compatible hs.locks hgrips hne
    rw [LockMode.excludes_exclusive] at hcompatible
    cases hcompatible
  refine { files := fun handle hother => ?_, leads := h.leads, entries := h.entries,
           length := h.frame.length, releases := h.frame.releases,
           info := fun hleads hholds hentry => ?_, ledger := fun {name mode} hholds => ?_ }
  · obtain ⟨hlt, hreleases⟩ := howned handle hother
    exact h.frame.kept hlt (hapart handle hother) hreleases
  · exact (h.info hleads hentry).resolve_right (hexclusive hholds)
  · exact (h.ledger name).resolve_right (hexclusive hholds)

end

/-! ### Safe routines -/

/-- An action, or a write of only the first part of its bytes. -/
inductive Action.Cut : Action → Action → Prop where
  | whole (action : Action) : Cut action action
  | part (handle : Handle) (bytes : Bytes) (size : Nat) :
    Cut (.write handle bytes) (.write handle (bytes.take size))

section

variable [Wire.Memory]

/-- Whether an action of an insertion comes in its turn: the info file is taken away first and
once, and whatever is done to the slot from then on, the ledger still tells of this insertion. -/
structure InTurn (i : Option Insertion) (t : Trace) (s : Tracked) (action : Action) : Prop where
  first : ∀ insertion ∈ i, ∀ other, action = .unlink other →
    insertion.stage (Trace.deeds t) = .untouched ∧ (Trace.deeds t).any Deed.unlocks = false
  current : ∀ insertion ∈ i, insertion.stage (Trace.deeds t) ≠ .untouched →
    insertion.stage (Trace.deeds (s.moment action :: t)) ≠ insertion.stage (Trace.deeds t) →
    s.ledger insertion.slot.name = some ⟨insertion, insertion.stage (Trace.deeds t)⟩

/-- Whether every action of a routine keeps the ledger true and the party's guarantee, locks are
given up only where `parting` holds, and the routine ends in `Q`. -/
def Safe (path : String) (i : Option Insertion) (parting : Trace → Tracked → Prop)
    {α : Type} (Q : α → Trace → Tracked → Prop) : Routine α → Trace → Tracked → Prop
  | .done a, t, s => Q a t s
  | .act action next, t, s => ∀ s', Rely path (Trace.opened t) s s' → Sound path s' →
    (∀ handle, action = .unlock handle → parting t s') ∧ InTurn i t s' action ∧
    (∀ part, action.Cut part → Sound path (s'.perform i t part) ∧
      Guarantee path (Trace.opened t) s' (s'.perform i t part)) ∧
    Safe path i parting Q (next (s'.machine.perform action).1) (s'.moment action :: t)
      (s'.perform i t action)

variable {path : String} {i : Option Insertion} {parting : Trace → Tracked → Prop}
  {α β : Type}

theorem Safe.bind {Q : β → Trace → Tracked → Prop} {f : α → Routine β} {routine : Routine α}
    {t : Trace} {s : Tracked}
    (h : Safe path i parting (fun a t s => Safe path i parting Q (f a) t s) routine t s) :
    Safe path i parting Q (routine.bind f) t s := by
  induction routine generalizing t s with
  | done a => exact h
  | act action next ih =>
    intro s' hrely hs'
    obtain ⟨hparting, hturn, hparts, hnext⟩ := h s' hrely hs'
    exact ⟨hparting, hturn, hparts, ih _ hnext⟩

/-- What is opened next is a new file, and it is one's own. -/
theorem Owned.perform {s : Tracked} {t : Trace} (hs : Sound path s)
    (howned : Owned (Trace.opened t) s.machine) (action : Action) :
    Owned (Trace.opened (s.moment action :: t)) (s.machine.perform action).2 := by
  have hframe := Machine.frame_perform s.machine action
  have hkeep : Owned (Trace.opened t) (s.machine.perform action).2 := by
    intro handle hown
    obtain ⟨hlt, hreleases⟩ := howned handle hown
    refine ⟨Nat.lt_of_lt_of_le hlt hframe.length, fun hmem => hreleases ?_⟩
    obtain ⟨release, hrelease, rfl⟩ := List.mem_map.mp hmem
    exact List.mem_map_of_mem (hframe.releases release hrelease)
  cases hopened : (s.moment action).deed.opened? with
  | none => rwa [Trace.opened_cons_of_none hopened]
  | some handle =>
    rw [Trace.opened_cons_of_some hopened]
    intro other hother
    rcases List.mem_cons.mp hother with rfl | hother
    · have hnew : other = s.machine.files.length ∧
          (s.machine.perform action).2.files.length = s.machine.files.length + 1 := by
        cases action with
        | openFile path mode =>
          simp only [Tracked.moment, Machine.perform, Machine.openFile] at hopened ⊢
          split at hopened
          · cases hopened
          · cases hopened
            simp [Machine.addFile]
        | _ => cases hopened
      refine ⟨by rw [hnew.1, hnew.2]; exact Nat.lt_succ_self _, fun hmem => ?_⟩
      obtain ⟨release, hrelease, heq⟩ := List.mem_map.mp hmem
      have hlt := hs.releases release (hframe.releases release hrelease)
      rw [heq, hnew.1] at hlt
      exact Nat.lt_irrefl _ hlt
    · exact hkeep other hother

theorem Safe.mono {Q Q' : α → Trace → Tracked → Prop} {routine : Routine α} {t : Trace}
    {s : Tracked} (h : Safe path i parting Q routine t s) (hs : Sound path s)
    (howned : Owned (Trace.opened t) s.machine)
    (hQ : ∀ a t s, Sound path s → Owned (Trace.opened t) s.machine → Q a t s → Q' a t s) :
    Safe path i parting Q' routine t s := by
  induction routine generalizing t s with
  | done a => exact hQ a t s hs howned h
  | act action next ih =>
    intro s' hrely hs'
    obtain ⟨hparting, hturn, hparts, hnext⟩ := h s' hrely hs'
    exact ⟨hparting, hturn, hparts, ih _ hnext (hparts action (.whole action)).1
      (Owned.perform hs' (howned.rely hrely) action)⟩

/-- What is remembered stays remembered. -/
theorem Safe.remember {Q : α → Trace → Tracked → Prop} {routine : Routine α} {t : Trace}
    {s : Tracked} (h : Safe path i parting Q routine t s) {F : Trace → Prop}
    (hF : ∀ {moment t}, F t → F (moment :: t)) (ht : F t) :
    Safe path i parting (fun a t s => Q a t s ∧ F t) routine t s := by
  induction routine generalizing t s with
  | done a => exact ⟨h, ht⟩
  | act action next ih =>
    intro s' hrely hs'
    obtain ⟨hparting, hturn, hparts, hnext⟩ := h s' hrely hs'
    exact ⟨hparting, hturn, hparts, ih _ hnext (hF ht)⟩

/-! ### Triples -/

/-- Whether a fact outlasts what others do. -/
def Stable (path : String) (P : Trace → Tracked → Prop) : Prop :=
  ∀ {t s s'}, P t s → Rely path (Trace.opened t) s s' → Sound path s' → P t s'

/-- Whether a routine is safe from where `P` holds and ends where `Q` holds. -/
def Triple (path : String) (i : Option Insertion) (parting : Trace → Tracked → Prop)
    (P : Trace → Tracked → Prop) (routine : Routine α) (Q : α → Trace → Tracked → Prop) : Prop :=
  ∀ t s, Sound path s → Owned (Trace.opened t) s.machine → P t s → Safe path i parting Q routine t s

namespace Triple

variable {P P' : Trace → Tracked → Prop} {Q Q' : α → Trace → Tracked → Prop}

theorem done {a : α} (h : ∀ t s, Sound path s → P t s → Q a t s) :
    Triple path i parting P (pure a) Q :=
  fun t s hs _ hP => h t s hs hP

theorem bind {R : β → Trace → Tracked → Prop} {routine : Routine α} {f : α → Routine β}
    (h : Triple path i parting P routine Q) (hf : ∀ a, Triple path i parting (Q a) (f a) R) :
    Triple path i parting P (routine >>= f) R :=
  fun t s hs howned hP => Safe.bind ((h t s hs howned hP).mono hs howned
    fun a t s hs howned hQ => hf a t s hs howned hQ)

theorem weaken {routine : Routine α} (h : Triple path i parting P routine Q)
    (hP : ∀ t s, P' t s → P t s) (hQ : ∀ a t s, Sound path s → Q a t s → Q' a t s) :
    Triple path i parting P' routine Q' :=
  fun t s hs howned hP' => (h t s hs howned (hP t s hP')).mono hs howned
    fun a t s hs _ hQa => hQ a t s hs hQa

theorem remember {routine : Routine α} (h : Triple path i parting P routine Q) {F : Trace → Prop}
    (hF : ∀ {moment t}, F t → F (moment :: t)) (hP : ∀ t s, P t s → F t) :
    Triple path i parting P routine fun a t s => Q a t s ∧ F t :=
  fun t s hs howned hPs => (h t s hs howned hPs).remember hF (hP t s hPs)

/-- A single action, from a fact that outlasts what others do. -/
theorem act {action : Action} {Q : action.Reply → Trace → Tracked → Prop} (hP : Stable path P)
    (h : ∀ t s, Sound path s → Owned (Trace.opened t) s.machine → P t s →
      (∀ handle, action = .unlock handle → parting t s) ∧ InTurn i t s action ∧
      (∀ part, action.Cut part → Sound path (s.perform i t part) ∧
        Guarantee path (Trace.opened t) s (s.perform i t part)) ∧
      Q (s.machine.perform action).1 (s.moment action :: t) (s.perform i t action)) :
    Triple path i parting P (Routine.perform action) Q :=
  fun t _ _ howned hPs s' hrely hs' => h t s' hs' (howned.rely hrely) (hP hPs hrely hs')

end Triple

end

end ScriptCache
