import Mathlib
import ScriptCache.Proofs.Machine.Keeping
import ScriptCache.Proofs.Store.Insert
import ScriptCache.Proofs.Store.Lookup

/-! One party alone at work.

A run can be followed with what the party remembers and with the ledger (`Routine.track`), and so
can a run that is cut short after some actions, the next one perhaps being a write of which only
the first bytes are done (`Routine.cut`, `Routine.trackCut`). From the triples it follows what a
whole insertion makes of the ledger (`insert_run`), what a lookup answers (`lookup_run`), and what
is left of an insertion that was cut short (`insert_cut`). -/
namespace ScriptCache

/-! ### Runs, followed -/

namespace Routine

variable {α : Type}

theorem cut_of_part? {size : Nat} {action part : Action} (h : part? size action = some part) :
    action.Cut part := by
  cases action with
  | write handle bytes =>
    cases h
    exact .part handle bytes size
  | _ => cases h

/-- The first `n` actions, with their replies. -/
def deeds : Routine α → Nat → Machine → List Deed
  | done _, _, _ => []
  | act _ _, 0, _ => []
  | act action next, n + 1, m =>
    ⟨action, (m.perform action).1⟩ :: (next (m.perform action).1).deeds n (m.perform action).2

variable [Wire.Memory]

/-- A run, with what is remembered of it and the ledger. -/
def track (i : Option Insertion) : Routine α → Trace → Tracked → α × Trace × Tracked
  | done a, t, s => (a, t, s)
  | act action next, t, s =>
    (next (s.machine.perform action).1).track i (s.moment action :: t) (s.perform i t action)

theorem track_run (i : Option Insertion) (routine : Routine α) (t : Trace) (s : Tracked) :
    routine.run s.machine =
      ((routine.track i t s).1, (routine.track i t s).2.2.machine) := by
  induction routine generalizing t s with
  | done a => rfl
  | act action next ih => exact ih _ _ (s.perform i t action)

/-- A run that is cut short, with what is remembered of it and the ledger. -/
def trackCut (i : Option Insertion) : Routine α → Nat → Nat → Trace → Tracked → Trace × Tracked
  | done _, _, _, t, s => (t, s)
  | act action next, n + 1, size, t, s =>
    (next (s.machine.perform action).1).trackCut i n size (s.moment action :: t)
      (s.perform i t action)
  | act action _, 0, size, t, s =>
    match part? size action with
    | some part => (s.moment part :: t, s.perform i t part)
    | none => (t, s)

theorem trackCut_machine (i : Option Insertion) (routine : Routine α) (n size : Nat) (t : Trace)
    (s : Tracked) : (routine.trackCut i n size t s).2.machine = routine.cut n size s.machine := by
  induction routine generalizing n t s with
  | done a => rfl
  | act action next ih =>
    cases n with
    | succ n => exact ih _ _ _ (s.perform i t action)
    | zero =>
      rw [trackCut, cut]
      cases part? size action <;> rfl

end Routine

/-! ### The ledger along a run -/

theorem Ledger.set_set (ledger : Ledger) (name : String) (r r' : Record) :
    (ledger.set name r).set name r' = ledger.set name r' := by
  funext other
  by_cases hother : other = name
  · rw [hother, Ledger.set_same, Ledger.set_same]
  · rw [Ledger.set_other hother, Ledger.set_other hother, Ledger.set_other hother]

theorem Deed.removes_unlink {path : String} {deed : Deed} (h : deed.removes path = true) :
    ∃ other, deed.action = .unlink other := by
  obtain ⟨action, reply⟩ := deed
  cases action with
  | unlink other => exact ⟨other, rfl⟩
  | _ => cases h

variable [Wire.Memory]

/-- What an insertion that began with a ledger has made of it. -/
structure Insertion.Recorded (i : Insertion) (start : Ledger) (t : Trace) (s : Tracked) : Prop where
  ledger : s.ledger = if i.stage (Trace.deeds t) = .untouched then start
    else start.set i.slot.name ⟨i, i.stage (Trace.deeds t)⟩
  removed : i.stage (Trace.deeds t) ≠ .untouched ↔
    (Trace.deeds t).any (Deed.removes i.slot.info) = true

theorem Stage.after_ne_untouched {stage : Stage} (h : stage ≠ .untouched) (i : Insertion)
    (deed : Deed) : stage.after i deed ≠ .untouched := by
  cases stage with
  | untouched => exact absurd rfl h
  | whole => rintro ⟨⟩
  | removed | filled =>
    rw [Stage.after]
    split <;> rintro ⟨⟩
  | emptied | opened =>
    rw [Stage.after]
    split
    · split <;> rintro ⟨⟩
    · rintro ⟨⟩

section

variable {i : Insertion} {start : Ledger} {t : Trace} {s : Tracked} {action : Action}

theorem Insertion.stage_cons_ne_untouched {before : List Deed} (h : i.stage before ≠ .untouched)
    (deed : Deed) : i.stage (deed :: before) ≠ .untouched := by
  by_cases hunlocked : before.any Deed.unlocks = true
  · rwa [← List.singleton_append, i.stage_of_unlocked hunlocked]
  · rw [i.stage_cons (by simpa using hunlocked)]
    exact Stage.after_ne_untouched h i deed

theorem Insertion.stage_cons_untouched {before : List Deed} (h : i.stage before = .untouched)
    {deed : Deed} (hkept : ¬ deed.removes i.slot.info = true) :
    i.stage (deed :: before) = .untouched := by
  by_cases hunlocked : before.any Deed.unlocks = true
  · rw [← List.singleton_append, i.stage_of_unlocked hunlocked, h]
  · rw [i.stage_cons (by simpa using hunlocked), h, Stage.after, if_neg hkept]

/-- The info file is removed by the action with which an insertion leaves its first stage. -/
theorem Insertion.removed_cons
    (hfirst : ∀ other, action = .unlink other →
      i.stage (Trace.deeds t) = .untouched ∧ (Trace.deeds t).any Deed.unlocks = false)
    (h : i.stage (Trace.deeds t) ≠ .untouched ↔
      (Trace.deeds t).any (Deed.removes i.slot.info) = true) :
    i.stage (Trace.deeds (s.moment action :: t)) ≠ .untouched ↔
      (Trace.deeds (s.moment action :: t)).any (Deed.removes i.slot.info) = true := by
  rw [Trace.deeds_cons, List.any_cons, Bool.or_eq_true, ← h]
  constructor
  · intro hmoved
    by_cases hbefore : i.stage (Trace.deeds t) = .untouched
    · left
      by_contra hkept
      exact hmoved (i.stage_cons_untouched hbefore hkept)
    · exact .inr hbefore
  · rintro (hremoves | hbefore)
    · obtain ⟨other, haction⟩ := Deed.removes_unlink hremoves
      obtain ⟨hbefore, hunlocked⟩ := hfirst other haction
      rw [i.stage_cons hunlocked, hbefore, Stage.after, if_pos hremoves]
      rintro ⟨⟩
    · exact i.stage_cons_ne_untouched hbefore _

theorem Insertion.Recorded.nil (i : Insertion) (ledger : Ledger) (m : Machine) :
    i.Recorded ledger [] ⟨m, ledger⟩ :=
  ⟨rfl, by simp [Insertion.stage, Trace.deeds]⟩

theorem Insertion.Recorded.perform (h : i.Recorded start t s)
    (hfirst : ∀ other, action = .unlink other →
      i.stage (Trace.deeds t) = .untouched ∧ (Trace.deeds t).any Deed.unlocks = false) :
    i.Recorded start (s.moment action :: t) (s.perform (some i) t action) := by
  refine ⟨?_, i.removed_cons hfirst h.removed⟩
  by_cases hsame : i.stage (Trace.deeds (s.moment action :: t)) = i.stage (Trace.deeds t)
  · rw [hsame, ← h.ledger]
    exact Ledger.note_of_stage hsame s.ledger
  · have hnote : (s.perform (some i) t action).ledger =
        s.ledger.set i.slot.name ⟨i, i.stage (Trace.deeds (s.moment action :: t))⟩ :=
      Ledger.note_of_ne hsame s.ledger
    have hmoved : i.stage (Trace.deeds (s.moment action :: t)) ≠ .untouched := by
      intro huntouched
      by_cases hbefore : i.stage (Trace.deeds t) = .untouched
      · exact hsame (huntouched.trans hbefore.symm)
      · exact i.stage_cons_ne_untouched hbefore _ huntouched
    rw [hnote, if_neg hmoved, h.ledger]
    split
    · rfl
    · rw [Ledger.set_set]

end

/-! ### Safe routines, run alone -/

section

variable {path : String} {parting : Trace → Tracked → Prop} {α : Type}
  {Q : α → Trace → Tracked → Prop} {routine : Routine α} {t : Trace} {s : Tracked}

/-- A safe insertion, run alone, keeps the ledger true and makes of it what it says. -/
theorem Safe.track_some {i : Insertion} {start : Ledger}
    (h : Safe path (some i) parting Q routine t s) (hs : Sound path s) (hr : i.Recorded start t s) :
    Sound path (routine.track (some i) t s).2.2 ∧
      i.Recorded start (routine.track (some i) t s).2.1 (routine.track (some i) t s).2.2 ∧
      Q (routine.track (some i) t s).1 (routine.track (some i) t s).2.1
        (routine.track (some i) t s).2.2 := by
  induction routine generalizing t s with
  | done a => exact ⟨hs, hr, h⟩
  | act action next ih =>
    obtain ⟨-, hturn, hparts, hnext⟩ := h s (.refl path _ s) hs
    exact ih _ hnext (hparts action (.whole action)).1 (hr.perform (hturn.first i rfl))

theorem Safe.trackCut_some {i : Insertion} {start : Ledger}
    (h : Safe path (some i) parting Q routine t s) (hs : Sound path s) (hr : i.Recorded start t s)
    (n size : Nat) :
    Sound path (routine.trackCut (some i) n size t s).2 ∧
      i.Recorded start (routine.trackCut (some i) n size t s).1
        (routine.trackCut (some i) n size t s).2 := by
  induction routine generalizing n t s with
  | done a => exact ⟨hs, hr⟩
  | act action next ih =>
    obtain ⟨-, hturn, hparts, hnext⟩ := h s (.refl path _ s) hs
    cases n with
    | succ n => exact ih _ hnext (hparts action (.whole action)).1 (hr.perform (hturn.first i rfl)) n
    | zero =>
      rw [Routine.trackCut]
      cases hpart : Routine.part? size action with
      | none => exact ⟨hs, hr⟩
      | some part =>
        refine ⟨(hparts part (Routine.cut_of_part? hpart)).1, hr.perform fun other heq => ?_⟩
        subst heq
        cases action <;> cases hpart

/-- Who inserts nothing changes nothing of the ledger. -/
theorem Safe.track_none {ledger : Ledger} (h : Safe path none parting Q routine t s)
    (hs : Sound path s) (hledger : s.ledger = ledger)
    (ht : ∀ moment ∈ t, moment.before = ledger) :
    Sound path (routine.track none t s).2.2 ∧ (routine.track none t s).2.2.ledger = ledger ∧
      (∀ moment ∈ (routine.track none t s).2.1, moment.before = ledger) ∧
      Q (routine.track none t s).1 (routine.track none t s).2.1 (routine.track none t s).2.2 := by
  induction routine generalizing t s with
  | done a => exact ⟨hs, hledger, ht, h⟩
  | act action next ih =>
    obtain ⟨-, -, hparts, hnext⟩ := h s (.refl path _ s) hs
    refine ih _ hnext (hparts action (.whole action)).1 hledger fun moment hmem => ?_
    rcases List.mem_cons.mp hmem with rfl | hmem
    · exact hledger
    · exact ht moment hmem

end

/-! ### Insertions and lookups, run alone -/

/-- A ledger after an insertion that came to a stage. -/
def Ledger.reached (ledger : Ledger) (i : Insertion) (stage : Stage) : Ledger :=
  if stage = .untouched then ledger else ledger.set i.slot.name ⟨i, stage⟩

/-- A ledger after an insertion that succeeded or failed. -/
def Ledger.inserted (ledger : Ledger) (i : Insertion) : Except CacheError Unit → Ledger
  | .ok () => ledger.set i.slot.name ⟨i, .whole⟩
  | .error _ => ledger

/-- What a lookup answers, by the entry for its slot. -/
inductive Replied (store : Store) (slot : Slot) (dependencies : DependencyTable)
    (signature : Bytes) (entry : Option Record) (outcome : LookupOutcome) : Prop where
  | bypassed (forced : store.force = true) (miss : outcome = .miss .bypassed)
  | locked (error : LockError) (miss : outcome = .miss (.lockUnavailable error))
  | served (served : Served slot dependencies signature entry outcome)

section

variable {i : Insertion} {slot : Slot} {dependencies : DependencyTable} {signature : Bytes}
  {m : Machine} {ledger : Ledger}

theorem insert_run (store : Store) (hfits : i.metadata.Fits)
    (hs : Sound i.slot.folder ⟨m, ledger⟩) :
    Sound i.slot.folder ⟨((store.insert i.slot i.artifact i.metadata).run m).2,
      ledger.inserted i ((store.insert i.slot i.artifact i.metadata).run m).1⟩ := by
  have hsafe := triple_insert store hfits [] ⟨m, ledger⟩ hs nofun ⟨rfl, rfl⟩
  obtain ⟨hs', hrecorded, hsettled⟩ := hsafe.track_some hs (.nil i ledger m)
  have hrun := (store.insert i.slot i.artifact i.metadata).track_run (some i) [] ⟨m, ledger⟩
  generalize (store.insert i.slot i.artifact i.metadata).track (some i) [] ⟨m, ledger⟩ = ending at *
  obtain ⟨result, t, s⟩ := ending
  rw [hrun]
  have hledger := hrecorded.ledger
  cases result with
  | ok u =>
    have hstage : i.stage (Trace.deeds t) = .whole := hsettled
    rw [hstage, if_neg nofun] at hledger
    rw [Ledger.inserted, ← hledger]
    exact hs'
  | error e =>
    have hstage : i.stage (Trace.deeds t) = .untouched := hsettled
    rw [if_pos hstage] at hledger
    rw [Ledger.inserted, ← hledger]
    exact hs'

theorem lookup_run (store : Store) (hs : Sound slot.folder ⟨m, ledger⟩) :
    Sound slot.folder ⟨((store.lookup slot dependencies signature).run m).2, ledger⟩ ∧
      Replied store slot dependencies signature (ledger slot.name)
        ((store.lookup slot dependencies signature).run m).1 := by
  have hlookup : Triple slot.folder none (fun _ _ => True) (fun _ _ => True)
      (store.lookup slot dependencies signature) _ := triple_lookup store
  obtain ⟨hs', hledger, hbefore, hanswer⟩ :=
    (hlookup [] ⟨m, ledger⟩ hs nofun trivial).track_none hs rfl nofun
  have hrun := (store.lookup slot dependencies signature).track_run none [] ⟨m, ledger⟩
  generalize (store.lookup slot dependencies signature).track none [] ⟨m, ledger⟩ = ending at *
  obtain ⟨outcome, t, machine, ledger'⟩ := ending
  obtain rfl : ledger' = ledger := hledger
  rw [hrun]
  refine ⟨hs', ?_⟩
  cases hanswer with
  | bypassed forced miss => exact .bypassed forced miss
  | locked error miss => exact .locked error miss
  | missing miss moment mem free =>
    have hnone : ledger' slot.name = none := (congrFun (hbefore moment mem) slot.name).symm.trans free
    refine .served ?_
    rw [hnone, show outcome = .miss .artifactMissing from miss]
    exact served_miss nofun rfl
  | served entry granted served =>
    obtain ⟨-, -, moment, mem, -, rfl⟩ := granted
    rw [hbefore moment mem] at served
    exact .served served

/-- Which actions removed the info file is remembered. -/
theorem removes_trackCut {α : Type} (i : Option Insertion) (routine : Routine α) (n size : Nat)
    (t : Trace) (s : Tracked) (path : String) :
    (Trace.deeds (routine.trackCut i n size t s).1).any (Deed.removes path) =
      ((routine.deeds n s.machine).any (Deed.removes path) ||
        (Trace.deeds t).any (Deed.removes path)) := by
  induction routine generalizing n t s with
  | done a => simp [Routine.trackCut, Routine.deeds]
  | act action next ih =>
    cases n with
    | succ n =>
      have hrest := ih (s.machine.perform action).1 n (s.moment action :: t) (s.perform i t action)
      rw [Routine.trackCut, hrest, Trace.deeds_cons, List.any_cons, Routine.deeds, List.any_cons,
        ← Bool.or_assoc, Bool.or_comm (List.any _ _)]
      rfl
    | zero =>
      rw [Routine.trackCut, Routine.deeds]
      cases hpart : Routine.part? size action with
      | none => simp
      | some part =>
        cases action with
        | write handle bytes =>
          cases hpart
          rfl
        | _ => cases hpart

/-- What is left of an insertion that was cut short. -/
theorem insert_cut (store : Store) (hfits : i.metadata.Fits)
    (hs : Sound i.slot.folder ⟨m, ledger⟩) (n size : Nat) :
    ∃ stage, Sound i.slot.folder
        ⟨(store.insert i.slot i.artifact i.metadata).cut n size m, ledger.reached i stage⟩ ∧
      (stage ≠ .untouched ↔ ((store.insert i.slot i.artifact i.metadata).deeds n m).any
        (Deed.removes i.slot.info) = true) := by
  have hsafe := triple_insert store hfits [] ⟨m, ledger⟩ hs nofun ⟨rfl, rfl⟩
  obtain ⟨hs', hrecorded⟩ := hsafe.trackCut_some hs (.nil i ledger m) n size
  have hmachine := (store.insert i.slot i.artifact i.metadata).trackCut_machine (some i) n size []
    ⟨m, ledger⟩
  have hremoves := removes_trackCut (some i) (store.insert i.slot i.artifact i.metadata) n size []
    ⟨m, ledger⟩ i.slot.info
  generalize (store.insert i.slot i.artifact i.metadata).trackCut (some i) n size [] ⟨m, ledger⟩ =
    ending at *
  obtain ⟨t, s⟩ := ending
  refine ⟨i.stage (Trace.deeds t), ?_, ?_⟩
  · rw [← hmachine, Ledger.reached, ← hrecorded.ledger]
    exact hs'
  · rw [hrecorded.removed, hremoves]
    simp [Trace.deeds]

end

end ScriptCache
