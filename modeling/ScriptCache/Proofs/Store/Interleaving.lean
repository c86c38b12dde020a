import Mathlib
import ScriptCache.Proofs.Store.Closing
import ScriptCache.Proofs.Store.HeldLocks
import ScriptCache.Proofs.Store.Refinement

/-! Insertions and lookups that take turns.

A pool has any number of parties, each with an insertion or a lookup to do, and every turn is one
action of one party: opening a file, asking for a lock, taking the info file away, emptying, writing,
reading, giving a lock up, closing. What the parties did tells everything else, so the ledger and
every party's trace are read off the history (`ledgerAfter`, `traceOf`). `Orderly` is what every
turn keeps: the ledger is true, it has for every name the insertion that took the info file away
last, the parties have no open file in common, and each goes on safely from where it is.
`operations_isolated` says what follows, whoever takes which turn. -/
namespace ScriptCache

/-! ### Pools -/

/-- What a party is asked for. -/
inductive Job where
  | insert (store : Store) (name : ResourceName) (artifact : Bytes) (metadata : Metadata)
  | lookup (store : Store) (name : ResourceName) (dependencies : DependencyTable)
    (signature : Bytes)

namespace Job

def routine [Wire.Memory] (folder : String) : Job → Routine Outcome
  | insert store name artifact metadata => do
    return .inserted (← store.insert (name.slot folder) artifact metadata)
  | lookup store name dependencies signature => do
    return .found (← store.lookup (name.slot folder) dependencies signature)

/-- The insertion that a party is asked for, if it is one. -/
def insertion? (folder : String) (party : Nat) : Job → Option Insertion
  | insert _ name artifact metadata => some ⟨party, name.slot folder, artifact, metadata⟩
  | lookup .. => none

/-- Whether what is inserted has lengths that can be written down. -/
def Fits [Wire.Memory] : Job → Prop
  | insert _ _ _ metadata => metadata.Fits
  | lookup .. => True

instance [Wire.Memory] (job : Job) : Decidable job.Fits :=
  match job with
  | .insert _ _ _ metadata => inferInstanceAs (Decidable metadata.Fits)
  | .lookup .. => isTrue trivial

end Job

/-- Who did what, and with what reply, the latest first. -/
abbrev History := List (Nat × Deed)

structure Pool where
  machine : Machine
  /-- What every party has still to do. -/
  left : List (Routine Outcome)
  history : History := []

namespace Pool

def start [Wire.Memory] (folder : String) (m : Machine) (jobs : List Job) : Pool where
  machine := m
  left := jobs.map (·.routine folder)

/-- The next action of a party, unless it is through. -/
def step (p : Pool) (k : Nat) : Pool :=
  match p.left[k]? with
  | some (.act action next) =>
    let (reply, machine) := p.machine.perform action
    { machine, left := p.left.set k (next reply), history := (k, ⟨action, reply⟩) :: p.history }
  | some (.done _) | none => p

/-- Actions of the parties in turn. -/
def run (p : Pool) (turns : List Nat) : Pool :=
  turns.foldl step p

/-- What a party is about to do. -/
def next? (p : Pool) (k : Nat) : Option Action :=
  match p.left[k]? with
  | some (.act action _) => some action
  | some (.done _) | none => none

/-- What a party came to that is through. -/
def outcome? (p : Pool) (k : Nat) : Option Outcome :=
  match p.left[k]? with
  | some (.done outcome) => some outcome
  | some (.act ..) | none => none

section

variable {p : Pool} {k : Nat}

theorem step_act {action : Action} {next : action.Reply → Routine Outcome}
    (h : p.left[k]? = some (.act action next)) :
    p.step k = ⟨(p.machine.perform action).2, p.left.set k (next (p.machine.perform action).1),
      (k, ⟨action, (p.machine.perform action).1⟩) :: p.history⟩ := by
  simp only [step, h]

theorem machine_step {action : Action} {next : action.Reply → Routine Outcome}
    (h : p.left[k]? = some (.act action next)) :
    (p.step k).machine = (p.machine.perform action).2 := by
  rw [step_act h]

theorem history_step (p : Pool) (k : Nat) : ∃ later, (p.step k).history = later ++ p.history := by
  cases hleft : p.left[k]? with
  | none => exact ⟨[], by simp only [Pool.step, hleft, List.nil_append]⟩
  | some routine =>
    cases routine with
    | done outcome => exact ⟨[], by simp only [Pool.step, hleft, List.nil_append]⟩
    | act action next => exact ⟨[_], by rw [step_act hleft, List.singleton_append]⟩

theorem history_run (p : Pool) (turns : List Nat) :
    ∃ later, (p.run turns).history = later ++ p.history := by
  induction turns generalizing p with
  | nil => exact ⟨[], rfl⟩
  | cons k turns ih =>
    obtain ⟨later, hlater⟩ := ih (p.step k)
    obtain ⟨later', hlater'⟩ := history_step p k
    refine ⟨later ++ later', ?_⟩
    show ((p.step k).run turns).history = _
    rw [hlater, hlater', List.append_assoc]

theorem left_of_next? {action : Action} (h : p.next? k = some action) :
    ∃ next, p.left[k]? = some (.act action next) := by
  rw [next?] at h
  split at h
  · rename_i next hleft
    cases h
    exact ⟨next, hleft⟩
  · cases h
  · cases h

theorem left_of_outcome? {outcome : Outcome} (h : p.outcome? k = some outcome) :
    p.left[k]? = some (.done outcome) := by
  rw [outcome?] at h
  split at h
  · rename_i hleft
    cases h
    exact hleft
  · cases h
  · cases h

end

end Pool

/-! ### What a history tells -/

namespace History

/-- What one party did. -/
def deedsOf (k : Nat) : History → List Deed
  | [] => []
  | (j, deed) :: before => if j = k then deed :: deedsOf k before else deedsOf k before

/-- The insertion that a party makes. -/
def insertionOf (folder : String) (jobs : List Job) (k : Nat) : Option Insertion :=
  jobs[k]?.bind (·.insertion? folder k)

/-- The insertion under a name that last got past removing the info file. -/
def lastThrough (folder : String) (jobs : List Job) (name : String) : History → Option Insertion
  | [] => none
  | (k, deed) :: before =>
    match insertionOf folder jobs k with
    | none => lastThrough folder jobs name before
    | some i =>
      if i.slot.name = name ∧ deed.removes i.slot.info = true then some i
      else lastThrough folder jobs name before

section

variable {folder : String} {jobs : List Job} {k : Nat} {history : History}

theorem lastThrough_of_none (h : insertionOf folder jobs k = none) (name : String) (deed : Deed) :
    lastThrough folder jobs name ((k, deed) :: history) = lastThrough folder jobs name history := by
  simp only [lastThrough, h]

theorem lastThrough_of_some {i : Insertion} (h : insertionOf folder jobs k = some i) (name : String)
    (deed : Deed) : lastThrough folder jobs name ((k, deed) :: history) =
      if i.slot.name = name ∧ deed.removes i.slot.info = true then some i
      else lastThrough folder jobs name history := by
  simp only [lastThrough, h]

theorem deedsOf_append (later : History) :
    deedsOf k (later ++ history) = deedsOf k later ++ deedsOf k history := by
  induction later with
  | nil => rfl
  | cons entry later ih =>
    obtain ⟨j, deed⟩ := entry
    rw [List.cons_append, deedsOf, deedsOf, ih]
    split <;> rfl

theorem mem_of_mem_deedsOf {deed : Deed} (h : deed ∈ deedsOf k history) : (k, deed) ∈ history := by
  induction history with
  | nil => cases h
  | cons entry before ih =>
    obtain ⟨j, other⟩ := entry
    rw [deedsOf] at h
    split at h
    · rename_i hsame
      rcases List.mem_cons.mp h with rfl | hbefore
      · rw [hsame]
        exact List.mem_cons_self
      · exact List.mem_cons_of_mem _ (ih hbefore)
    · exact List.mem_cons_of_mem _ (ih h)

end

section

variable [Wire.Memory]

def ledgerAfter (folder : String) (jobs : List Job) : History → Ledger
  | [] => fun _ => none
  | (k, deed) :: before =>
    (ledgerAfter folder jobs before).note (insertionOf folder jobs k) (deedsOf k before) deed

/-- What one party remembers. -/
def traceOf (folder : String) (jobs : List Job) (k : Nat) : History → Trace
  | [] => []
  | (j, deed) :: before =>
    if j = k then ⟨deed, ledgerAfter folder jobs before⟩ :: traceOf folder jobs k before
    else traceOf folder jobs k before

@[simp] theorem deeds_traceOf (folder : String) (jobs : List Job) (k : Nat) (history : History) :
    Trace.deeds (traceOf folder jobs k history) = deedsOf k history := by
  induction history with
  | nil => rfl
  | cons entry before ih =>
    obtain ⟨j, deed⟩ := entry
    rw [traceOf, deedsOf]
    split
    · rw [Trace.deeds_cons, ih]
    · exact ih

/-- What a party remembers is somewhere in the history, with the ledger as it was then. -/
theorem split_of_mem_traceOf {folder : String} {jobs : List Job} {k : Nat} {history : History}
    {moment : Moment} (h : moment ∈ traceOf folder jobs k history) :
    ∃ later before, history = later ++ (k, moment.deed) :: before ∧
      moment.before = ledgerAfter folder jobs before := by
  induction history with
  | nil => cases h
  | cons entry before ih =>
    obtain ⟨j, deed⟩ := entry
    have hearlier (hbefore : moment ∈ traceOf folder jobs k before) :
        ∃ later before', (j, deed) :: before = later ++ (k, moment.deed) :: before' ∧
          moment.before = ledgerAfter folder jobs before' := by
      obtain ⟨later, before', rfl, hledger⟩ := ih hbefore
      exact ⟨(j, deed) :: later, before', rfl, hledger⟩
    rw [traceOf] at h
    split at h
    · rename_i hsame
      rcases List.mem_cons.mp h with rfl | hbefore
      · exact ⟨[], before, by rw [hsame]; rfl, rfl⟩
      · exact hearlier hbefore
    · exact hearlier h

/-- Whether the ledger has for every name the insertion that last got past removing the info
file. -/
def Told (folder : String) (jobs : List Job) (history : History) : Prop :=
  ∀ name, (ledgerAfter folder jobs history name).map (·.insertion) =
    lastThrough folder jobs name history

/-- An action that comes in its turn keeps the ledger telling that. -/
theorem Told.perform {folder : String} {jobs : List Job} {k : Nat} {m : Machine}
    {history : History} (h : Told folder jobs history) {action : Action}
    (hturn : InTurn (insertionOf folder jobs k) (traceOf folder jobs k history)
      ⟨m, ledgerAfter folder jobs history⟩ action) :
    Told folder jobs ((k, ⟨action, (m.perform action).1⟩) :: history) := by
  intro name
  rw [ledgerAfter]
  cases hi : insertionOf folder jobs k with
  | none =>
    rw [lastThrough_of_none hi]
    exact h name
  | some i =>
    rw [hi] at hturn
    rw [lastThrough_of_some hi]
    have hfirst := hturn.first i rfl
    have hcurrent := hturn.current i rfl
    rw [deeds_traceOf] at hfirst hcurrent
    rw [Trace.deeds_cons, deeds_traceOf] at hcurrent
    by_cases hremoves : Deed.removes i.slot.info ⟨action, (m.perform action).1⟩ = true
    · obtain ⟨other, haction⟩ := Deed.removes_unlink hremoves
      obtain ⟨hbefore, hunlocked⟩ := hfirst other haction
      have hafter : i.stage (⟨action, (m.perform action).1⟩ :: deedsOf k history) = .removed := by
        rw [i.stage_cons hunlocked, hbefore, Stage.after, if_pos hremoves]
      rw [Ledger.note_of_ne (by rw [hafter, hbefore]; rintro ⟨⟩)]
      by_cases hname : i.slot.name = name
      · rw [if_pos ⟨hname, hremoves⟩, ← hname, Ledger.set_same, Option.map_some]
      · rw [if_neg fun hboth => hname hboth.1, Ledger.set_other (Ne.symm hname)]
        exact h name
    · rw [if_neg fun hboth => hremoves hboth.2]
      by_cases hsame : i.stage (⟨action, (m.perform action).1⟩ :: deedsOf k history) =
          i.stage (deedsOf k history)
      · rw [Ledger.note_of_stage hsame]
        exact h name
      · -- The ledger told of this insertion, and goes on telling of it.
        have hmoved : i.stage (deedsOf k history) ≠ .untouched := fun hbefore =>
          hsame ((i.stage_cons_untouched hbefore hremoves).trans hbefore.symm)
        have hentry : ledgerAfter folder jobs history i.slot.name =
            some ⟨i, i.stage (deedsOf k history)⟩ := hcurrent hmoved hsame
        rw [Ledger.note_of_ne hsame]
        by_cases hname : i.slot.name = name
        · have hlast := h i.slot.name
          rw [hentry, Option.map_some] at hlast
          rw [← hname, Ledger.set_same, Option.map_some, hlast]
        · rw [Ledger.set_other (Ne.symm hname)]
          exact h name

end

end History

/-! ### What every turn keeps -/

open History

namespace Job

variable [Wire.Memory] {folder : String} {k : Nat} {job : Job}

/-- What a party leaves when it gives a lock up. -/
def Parting (folder : String) (k : Nat) : Job → Trace → Tracked → Prop
  | insert _ name artifact metadata =>
    Insertion.Parting ⟨k, name.slot folder, artifact, metadata⟩
  | lookup .. => fun _ _ => True

/-- What a party comes to. -/
def Ends (folder : String) (k : Nat) : Job → Outcome → Trace → Tracked → Prop
  | insert _ name artifact metadata, .inserted result =>
    Settled (fun t _ => Insertion.stage ⟨k, name.slot folder, artifact, metadata⟩
        (Trace.deeds t) = .untouched)
      (fun t _ => Insertion.stage ⟨k, name.slot folder, artifact, metadata⟩
        (Trace.deeds t) = .whole) result
  | lookup store name dependencies signature, .found outcome => fun t _ =>
    Answer store (name.slot folder) dependencies signature t outcome
  | _, _ => fun _ _ => False

theorem uses_routine (folder : String) (job : Job) :
    (job.routine folder).Uses (fun _ after => after = []) [] := by
  cases job with
  | insert store name artifact metadata => exact (keeps_insert store).bind fun _ => rfl
  | lookup store name dependencies signature => exact (keeps_lookup store).bind fun _ => rfl

theorem safe_routine (k : Nat) (hfits : job.Fits) {s : Tracked} (hs : Sound folder s) :
    Safe folder (job.insertion? folder k) (job.Parting folder k) (job.Ends folder k)
      (job.routine folder) [] s := by
  cases job with
  | insert store name artifact metadata =>
    let i : Insertion := ⟨k, name.slot folder, artifact, metadata⟩
    have hinsert : Triple folder (some i) i.Parting (fun t _ => i.At .untouched t)
        ((insert store name artifact metadata).routine folder)
        ((insert store name artifact metadata).Ends folder k) :=
      (triple_insert (i := i) store hfits).bind fun result => .done fun _ _ _ h => h
    exact hinsert [] s hs nofun ⟨rfl, rfl⟩
  | lookup store name dependencies signature =>
    have hlookup : Triple (name.slot folder).folder none (fun _ _ => True) (fun _ _ => True)
        (store.lookup (name.slot folder) dependencies signature) _ := triple_lookup store
    have hroutine : Triple folder none (fun _ _ => True) (fun _ _ => True)
        ((lookup store name dependencies signature).routine folder)
        ((lookup store name dependencies signature).Ends folder k) :=
      hlookup.bind fun outcome => .done fun _ _ _ h => h
    exact hroutine [] s hs nofun trivial

end Job

section

variable {s : Tracked} {action : Action} {t : Trace} {handle : Handle}

/-- A file that an action opens is the next one. -/
theorem new_or_opened (h : handle ∈ Trace.opened (s.moment action :: t)) :
    handle ∈ Trace.opened t ∨ handle = s.machine.files.length := by
  cases hopened : (s.moment action).deed.opened? with
  | none => exact .inl (Trace.opened_cons_of_none hopened t ▸ h)
  | some other =>
    rw [Trace.opened_cons_of_some hopened] at h
    rcases List.mem_cons.mp h with rfl | hold
    · cases action with
      | openFile path mode =>
        cases hreply : (s.machine.perform (.openFile path mode)).1 with
        | error e =>
          rw [Tracked.moment, hreply] at hopened
          cases hopened
        | ok new =>
          rw [Tracked.moment, hreply] at hopened
          cases hopened
          exact .inr (Machine.perform_openFile hreply).1
      | _ => cases hopened
    · exact .inl hold

theorem opened_of_openAfter {own : List Handle} (hown : ∀ handle ∈ own, handle ∈ Trace.opened t)
    (h : handle ∈ action.openAfter own (s.machine.perform action).1) :
    handle ∈ Trace.opened (s.moment action :: t) := by
  have hkeep (hold : handle ∈ own) : handle ∈ Trace.opened (s.moment action :: t) :=
    Trace.mem_opened_cons (hown handle hold) _
  cases action with
  | openFile path mode =>
    cases hreply : (s.machine.perform (.openFile path mode)).1 with
    | error e =>
      rw [hreply] at h
      exact hkeep h
    | ok new =>
      rw [hreply] at h
      have hopened : (s.moment (.openFile path mode)).deed.opened? = some new := by
        rw [Tracked.moment, hreply]
        rfl
      rcases List.mem_cons.mp h with rfl | hold
      · rw [Trace.opened_cons_of_some hopened]
        exact List.mem_cons_self
      · exact hkeep hold
  | closeFile other => exact hkeep (List.mem_of_mem_erase h)
  | _ => exact hkeep h

end

section

variable [Wire.Memory]

/-- An artifact that an insertion got to is found at its path. -/
theorem Sound.find?_artifact {slot : Slot} {s : Tracked} (hs : Sound slot.folder s) {r : Record}
    (hr : s.ledger slot.name = some r) {node : NodeId} (hleads : s.machine.disk.Leads slot.folder node)
    {content : Bytes}
    (hcontent : s.machine.disk.content? node (Slot.artifactName slot.name) = some content) :
    s.machine.disk.find? slot.artifact = some (.file content) := by
  obtain ⟨htidy, hfiled⟩ := hs.site.of_leads hleads
  have hrecord : Filed (s.ledger slot.name) s.machine.disk slot.folder node slot.name :=
    hfiled slot.name
  rw [hr] at hrecord
  obtain ⟨id, hentry, hid⟩ := Disk.content?_eq_some.mp hcontent
  rw [slot.artifact_eq, Disk.find?, Disk.locate_nameable hleads htidy trivial slot.plain_artifactName
    (Record.Filed.artifactNameable hrecord), hentry]
  exact Disk.fileContent?_eq_some.mp hid

/-- Whether a party goes on safely from where it is. -/
structure AtWork (folder : String) (k : Nat) (job : Job) (routine : Routine Outcome) (t : Trace)
    (s : Tracked) : Prop where
  /-- It names no open files but those that it opened. -/
  uses : ∃ own, routine.Uses (fun _ after => after = []) own ∧
    ∀ handle ∈ own, handle ∈ Trace.opened t
  /-- It is safe from where it acted last. -/
  safe : ∃ s₀, Rely folder (Trace.opened t) s₀ s ∧
    Safe folder (job.insertion? folder k) (job.Parting folder k) (job.Ends folder k) routine t s₀

namespace Pool

/-- The machine with what the history tells of the slots. -/
def tracked (folder : String) (jobs : List Job) (p : Pool) : Tracked :=
  ⟨p.machine, ledgerAfter folder jobs p.history⟩

structure Orderly (folder : String) (jobs : List Job) (p : Pool) : Prop where
  sound : Sound folder (p.tracked folder jobs)
  told : ∀ before, before <:+ p.history → Told folder jobs before
  owned : ∀ k, Owned (Trace.opened (traceOf folder jobs k p.history)) p.machine
  apart : ∀ {j k}, j ≠ k → ∀ handle ∈ Trace.opened (traceOf folder jobs j p.history),
    handle ∉ Trace.opened (traceOf folder jobs k p.history)
  minds : ∀ k, Minds folder (traceOf folder jobs k p.history) p.machine
  atWork : ∀ k routine, p.left[k]? = some routine → ∃ job, jobs[k]? = some job ∧
    AtWork folder k job routine (traceOf folder jobs k p.history) (p.tracked folder jobs)

section

variable {folder : String} {m : Machine} {jobs : List Job} {p : Pool} {k : Nat}

theorem orderly_start (hfresh : m.Fresh folder) (hfits : ∀ job ∈ jobs, job.Fits) :
    (start folder m jobs).Orderly folder jobs where
  sound := hfresh.sound
  told before hbefore name := by
    rw [List.suffix_nil.mp hbefore]
    rfl
  owned _ := nofun
  apart _ := nofun
  minds _ := minds_nil folder m
  atWork k routine hleft := by
    rw [start, List.getElem?_map] at hleft
    obtain ⟨job, hjob, rfl⟩ := Option.map_eq_some_iff.mp hleft
    refine ⟨job, hjob, ⟨[], job.uses_routine folder, nofun⟩, _, .refl folder _ _, ?_⟩
    exact job.safe_routine k (hfits job (List.mem_of_getElem? hjob)) hfresh.sound

/-! A turn of one party, as the others and the ledger see it. -/

section

variable {action : Action} {next : action.Reply → Routine Outcome}

theorem tracked_step (h : p.left[k]? = some (.act action next)) :
    (p.step k).tracked folder jobs = (p.tracked folder jobs).perform (insertionOf folder jobs k)
      (traceOf folder jobs k p.history) action := by
  rw [step_act h, tracked, ledgerAfter, Tracked.perform, deeds_traceOf]
  rfl

theorem traceOf_step (h : p.left[k]? = some (.act action next)) :
    traceOf folder jobs k (p.step k).history =
      (p.tracked folder jobs).moment action :: traceOf folder jobs k p.history := by
  rw [step_act h, traceOf, if_pos rfl]
  rfl

theorem traceOf_step_other (h : p.left[k]? = some (.act action next)) {j : Nat} (hj : j ≠ k) :
    traceOf folder jobs j (p.step k).history = traceOf folder jobs j p.history := by
  rw [step_act h, traceOf, if_neg (Ne.symm hj)]

/-- What a party does in its turn: it comes in its turn, keeps the ledger true and what the party
guarantees, and leaves the party at work. -/
theorem Orderly.turn (h : p.Orderly folder jobs) (hleft : p.left[k]? = some (.act action next)) :
    InTurn (insertionOf folder jobs k) (traceOf folder jobs k p.history) (p.tracked folder jobs)
      action ∧
    Sound folder ((p.step k).tracked folder jobs) ∧
    Guarantee folder (Trace.opened (traceOf folder jobs k p.history)) (p.tracked folder jobs)
      ((p.step k).tracked folder jobs) ∧
    (∀ handle ∈ action.handles, handle ∈ Trace.opened (traceOf folder jobs k p.history)) ∧
    ∃ job, jobs[k]? = some job ∧
      AtWork folder k job (next (p.machine.perform action).1)
        (traceOf folder jobs k (p.step k).history) ((p.step k).tracked folder jobs) := by
  obtain ⟨job, hjob, ⟨own, huses, hown⟩, s₀, hrely, hsafe⟩ := h.atWork k _ hleft
  obtain ⟨-, hturn, hparts, hnext⟩ := hsafe _ hrely h.sound
  obtain ⟨hsound, hguarantee⟩ := hparts action (.whole action)
  have hi : insertionOf folder jobs k = job.insertion? folder k := by
    rw [insertionOf, hjob]
    rfl
  rw [tracked_step hleft, traceOf_step hleft, hi]
  exact ⟨hturn, hsound, hguarantee, fun handle hmem => hown handle (huses.1 handle hmem), job, hjob,
    ⟨_, huses.2 _, fun handle hmem => opened_of_openAfter hown hmem⟩, _, .refl folder _ _, hnext⟩

/-- What a party guarantees is what every other party relies on. -/
theorem Orderly.rely (h : p.Orderly folder jobs) (hleft : p.left[k]? = some (.act action next))
    {j : Nat} (hj : j ≠ k) :
    Rely folder (Trace.opened (traceOf folder jobs j p.history)) (p.tracked folder jobs)
      ((p.step k).tracked folder jobs) :=
  (h.turn hleft).2.2.1.rely h.sound (h.owned j) (h.apart hj)

/-- A file that is opened in a turn is one that no other party has open. -/
theorem Orderly.apart_step (h : p.Orderly folder jobs)
    (hleft : p.left[k]? = some (.act action next)) {j : Nat} (hj : j ≠ k) {handle : Handle}
    (hmine : handle ∈ Trace.opened (traceOf folder jobs k (p.step k).history)) :
    handle ∉ Trace.opened (traceOf folder jobs j (p.step k).history) := by
  rw [traceOf_step_other hleft hj]
  rw [traceOf_step hleft] at hmine
  intro htheirs
  rcases new_or_opened hmine with hold | rfl
  · exact h.apart hj handle htheirs hold
  · exact Nat.lt_irrefl _ (h.owned j _ htheirs).1

end

/-- A turn keeps a pool orderly. -/
theorem Orderly.act (h : p.Orderly folder jobs) {action : Action}
    {next : action.Reply → Routine Outcome} (hleft : p.left[k]? = some (.act action next)) :
    (p.step k).Orderly folder jobs := by
  obtain ⟨hturn, hsound, hguarantee, hhandles, job, hjob, hwork⟩ := h.turn hleft
  refine ⟨hsound, fun before hbefore => ?told, fun j => ?owned, fun {j l} hne handle hj hl => ?apart,
    fun j => ?minds, fun j routine hroutine => ?atWork⟩
  case told =>
    rw [step_act hleft] at hbefore
    rcases List.suffix_cons_iff.mp hbefore with rfl | hearlier
    · exact (h.told p.history List.suffix_rfl).perform hturn
    · exact h.told before hearlier
  case owned =>
    by_cases hj : j = k
    · rw [hj, traceOf_step hleft, machine_step hleft]
      exact Owned.perform h.sound (h.owned k) action
    · rw [traceOf_step_other hleft hj]
      exact (h.owned j).rely (h.rely hleft hj)
  case apart =>
    by_cases hjk : j = k
    · exact h.apart_step hleft (hjk ▸ hne.symm) (hjk ▸ hj) hl
    · by_cases hlk : l = k
      · exact h.apart_step hleft hjk (hlk ▸ hl) hj
      · rw [traceOf_step_other hleft hjk] at hj
        rw [traceOf_step_other hleft hlk] at hl
        exact h.apart hne handle hj hl
  case minds =>
    by_cases hj : j = k
    · rw [hj, traceOf_step hleft, machine_step hleft]
      rw [tracked_step hleft] at hguarantee
      exact (h.minds k).perform h.sound (h.owned k) hhandles hguarantee
    · rw [traceOf_step_other hleft hj]
      exact (h.minds j).rely (h.rely hleft hj)
  case atWork =>
    rw [step_act hleft, List.getElem?_set] at hroutine
    by_cases hj : j = k
    · rw [if_pos hj.symm] at hroutine
      split at hroutine
      · cases hroutine
        rw [hj]
        exact ⟨job, hjob, hwork⟩
      · cases hroutine
    · rw [if_neg (Ne.symm hj)] at hroutine
      obtain ⟨other, hother, huses, s₀, hrely, hsafe⟩ := h.atWork j routine hroutine
      rw [traceOf_step_other hleft hj]
      exact ⟨other, hother, huses, s₀, hrely.trans (h.rely hleft hj), hsafe⟩

theorem Orderly.step (h : p.Orderly folder jobs) (k : Nat) : (p.step k).Orderly folder jobs := by
  cases hleft : p.left[k]? with
  | none => simpa only [Pool.step, hleft] using h
  | some routine =>
    cases routine with
    | done outcome => simpa only [Pool.step, hleft] using h
    | act action next => exact h.act hleft

theorem Orderly.run (h : p.Orderly folder jobs) (turns : List Nat) :
    (p.run turns).Orderly folder jobs := by
  induction turns generalizing p with
  | nil => exact h
  | cons k turns ih => exact ih (h.step k)

/-- Two parties have a slot's lock only if both share it. -/
theorem Orderly.excludes (h : p.Orderly folder jobs) (name : ResourceName) {j k : Nat} (hne : j ≠ k)
    (hlocked : Locked (name.slot folder) .exclusive (deedsOf j p.history)) (mode : LockMode) :
    ¬ Locked (name.slot folder) mode (deedsOf k p.history) := by
  rw [← deeds_traceOf folder jobs] at hlocked ⊢
  exact hlocked.excludes (h.minds j) (h.minds k) h.sound.locks (h.apart (Ne.symm hne)) mode

/-- An insertion that got past removing the info file is not forgotten. -/
theorem lastThrough_of_stage {i : Insertion} (hi : insertionOf folder jobs k = some i)
    {history : History} (h : i.stage (deedsOf k history) ≠ .untouched) :
    ∃ last, lastThrough folder jobs i.slot.name history = some last := by
  induction history with
  | nil => exact absurd rfl h
  | cons entry before ih =>
    obtain ⟨j, deed⟩ := entry
    have hearlier (hlast : ∃ last, lastThrough folder jobs i.slot.name before = some last) :
        ∃ last, lastThrough folder jobs i.slot.name ((j, deed) :: before) = some last := by
      cases hj : insertionOf folder jobs j with
      | none => rwa [lastThrough_of_none hj]
      | some other =>
        rw [lastThrough_of_some hj]
        split
        · exact ⟨other, rfl⟩
        · exact hlast
    rw [deedsOf] at h
    split at h
    · rename_i hsame
      by_cases hbefore : i.stage (deedsOf k before) = .untouched
      · have hremoves : deed.removes i.slot.info = true := by
          by_contra hkept
          exact h (i.stage_cons_untouched hbefore hkept)
        exact ⟨i, by rw [lastThrough_of_some (hsame ▸ hi), if_pos ⟨rfl, hremoves⟩]⟩
      · exact hearlier (ih hbefore)
    · exact hearlier (ih h)

/-- An insertion that gives a lock up and succeeds leaves its artifact. -/
theorem Orderly.artifact (h : p.Orderly folder jobs) {store : Store} {name : ResourceName}
    {artifact : Bytes} {metadata : Metadata}
    (hjob : jobs[k]? = some (.insert store name artifact metadata)) {handle : Handle}
    (hnext : p.next? k = some (.unlock handle)) {later : List Nat}
    (hdone : (p.run (k :: later)).outcome? k = some (.inserted (.ok ()))) :
    p.machine.disk.find? (name.slot folder).artifact = some (.file artifact) := by
  let i : Insertion := ⟨k, name.slot folder, artifact, metadata⟩
  have hi : insertionOf folder jobs k = some i := by
    rw [insertionOf, hjob]
    rfl
  obtain ⟨next, hleft⟩ := left_of_next? hnext
  have hwhole : i.stage (deedsOf k p.history) = .whole := by
    obtain ⟨job, hjob', -, s₀, -, hends⟩ :=
      (h.run (k :: later)).atWork k _ (left_of_outcome? hdone)
    rw [hjob] at hjob'
    cases hjob'
    have hended : i.stage (Trace.deeds (traceOf folder jobs k (p.run (k :: later)).history)) =
        .whole := hends
    obtain ⟨after, hafter⟩ := history_run (p.step k) later
    have hhistory : (p.run (k :: later)).history =
        after ++ (k, ⟨.unlock handle, (p.machine.perform (.unlock handle)).1⟩) :: p.history := by
      show ((p.step k).run later).history = _
      rw [hafter, step_act hleft]
    have hunlock : (Action.unlock handle).Harmless folder := trivial
    rw [deeds_traceOf, hhistory, deedsOf_append, deedsOf, if_pos rfl,
      i.stage_of_unlocked rfl, hunlock.stage] at hended
    exact hended
  obtain ⟨job, hjob', -, s₀, hrely, hsafe⟩ := h.atWork k _ hleft
  rw [hjob] at hjob'
  cases hjob'
  have hparting : i.Parting (traceOf folder jobs k p.history) (p.tracked folder jobs) :=
    (hsafe _ hrely h.sound).1 handle rfl
  obtain ⟨node, hleads, hcontent⟩ := hparting ((deeds_traceOf folder jobs k p.history).symm ▸ hwhole)
  obtain ⟨last, hlast⟩ := lastThrough_of_stage hi (by rw [hwhole]; nofun)
  have htold := h.told p.history List.suffix_rfl i.slot.name
  rw [hlast] at htold
  obtain ⟨r, hr, -⟩ := Option.map_eq_some_iff.mp htold
  exact h.sound.find?_artifact hr hleads hcontent

/-- A lookup hits on the insertion that was through last when it was granted its slot's lock. -/
theorem Orderly.hit (h : p.Orderly folder jobs) {store : Store} {name : ResourceName}
    {dependencies : DependencyTable} {signature : Bytes}
    (hjob : jobs[k]? = some (.lookup store name dependencies signature)) {hit : CachedArtifact}
    (hdone : p.outcome? k = some (.found (.hit hit))) :
    ∃ later handle before i,
      p.history = later ++ (k, ⟨.tryLock handle .shared, .granted⟩) :: before ∧
      (k, ⟨.openFile (name.slot folder).lock .append, .ok handle⟩) ∈ p.history ∧
      lastThrough folder jobs name.val before = some i ∧
      hit = ⟨(name.slot folder).artifact, i.artifact, i.metadata⟩ := by
  obtain ⟨job, hjob', -, s₀, -, hends⟩ := h.atWork k _ (left_of_outcome? hdone)
  rw [hjob] at hjob'
  cases hjob'
  have hanswer : Answer store (name.slot folder) dependencies signature
      (traceOf folder jobs k p.history) (.hit hit) := hends
  cases hanswer with
  | bypassed forced miss => cases miss
  | locked error miss => cases miss
  | missing miss => cases miss
  | served entry granted served =>
    obtain ⟨i, hwhole, -, hhit⟩ := (served.hit_iff hit).mp rfl
    obtain ⟨handle, hopen, moment, hmem, hdeed, hbefore⟩ := granted
    obtain ⟨later, before, hsplit, hledger⟩ := split_of_mem_traceOf hmem
    rw [deeds_traceOf] at hopen
    refine ⟨later, handle, before, i, hdeed ▸ hsplit, mem_of_mem_deedsOf hopen, ?_, hhit⟩
    have hsuffix : before <:+ p.history :=
      ⟨later ++ [(k, moment.deed)], by rw [hsplit, List.append_assoc, List.singleton_append]⟩
    have htold := h.told before hsuffix name.val
    rw [← hledger] at htold
    rw [← htold]
    show (moment.before (name.slot folder).name).map _ = _
    rw [hbefore, Record.whole?_eq_some.mp hwhole, Option.map_some]

end

end Pool

/-! ### Isolation -/

/-- Whoever takes which turn: a slot's lock is one insertion's alone, from when it is granted to
when it is given up; an insertion that succeeds leaves its artifact when it gives up a lock; and a
lookup hits on one insertion, the last that got past removing the info file before the lookup was
granted the slot's lock. -/
theorem operations_isolated {folder : String} {m : Machine} (hfresh : m.Fresh folder)
    {jobs : List Job} (hfits : ∀ job ∈ jobs, job.Fits) (turns : List Nat) (name : ResourceName) :
    let slot := name.slot folder
    let p := (Pool.start folder m jobs).run turns
    (∀ j k mode, j ≠ k → Locked slot .exclusive (deedsOf j p.history) →
      ¬ Locked slot mode (deedsOf k p.history)) ∧
    (∀ k store artifact metadata handle later,
      jobs[k]? = some (.insert store name artifact metadata) →
      p.next? k = some (.unlock handle) →
      (p.run (k :: later)).outcome? k = some (.inserted (.ok ())) →
      p.machine.disk.find? slot.artifact = some (.file artifact)) ∧
    (∀ k store dependencies signature hit,
      jobs[k]? = some (.lookup store name dependencies signature) →
      p.outcome? k = some (.found (.hit hit)) →
      ∃ later handle before i,
        p.history = later ++ (k, ⟨.tryLock handle .shared, .granted⟩) :: before ∧
        (k, ⟨.openFile slot.lock .append, .ok handle⟩) ∈ p.history ∧
        lastThrough folder jobs name.val before = some i ∧
        hit = ⟨slot.artifact, i.artifact, i.metadata⟩) := by
  intro slot p
  have horderly : p.Orderly folder jobs := (Pool.orderly_start hfresh hfits).run turns
  refine ⟨fun j k mode hne hlocked => ?_, fun k store artifact metadata handle later hjob hnext hdone => ?_,
    fun k store dependencies signature hit hjob hdone => ?_⟩
  · exact horderly.excludes name hne hlocked mode
  · exact horderly.artifact hjob hnext hdone
  · exact horderly.hit hjob hdone

end

section

attribute [local instance] Wire.Memory.addressSpace

deriving instance DecidableEq for Outcome

/-- A lookup that found the artifact of one insertion there, and had to wait for another insertion
to give up the slot's lock, hits on the other. -/
theorem hit_after_waiting :
    let name : ResourceName := ⟨"a", by decide⟩
    let metadata := Metadata.ofArtifact ⟨[]⟩ [1] [2, 3]
    let jobs : List Job := [.insert {} name [2] (.ofArtifact ⟨[]⟩ [1] [2]),
      .insert {} name [2, 3] metadata, .lookup {} name ⟨[]⟩ [1]]
    let turns := List.replicate 30 0 ++ List.replicate 8 1 ++ List.replicate 3 2 ++
      List.replicate 30 1 ++ List.replicate 30 2
    let p := (Pool.start "c" .blank jobs).run turns
    p.outcome? 2 = some (.found (.hit ⟨"c/a.o", [2, 3], metadata⟩)) ∧
    ∃ later handle before i,
      p.history = later ++ (2, ⟨.tryLock handle .shared, .granted⟩) :: before ∧
      lastThrough "c" jobs "a" before = some i ∧ i.artifact = [2, 3] ∧ i.metadata = metadata := by
  intro name metadata jobs turns p
  have hfits : ∀ job ∈ jobs, job.Fits := by decide +kernel
  have hhit : p.outcome? 2 = some (.found (.hit ⟨"c/a.o", [2, 3], metadata⟩)) := by decide +kernel
  obtain ⟨-, -, hlookup⟩ := operations_isolated Machine.blank_fresh hfits turns name
  obtain ⟨later, handle, before, i, hhistory, -, hlast, heq⟩ := hlookup 2 {} ⟨[]⟩ [1] _ rfl hhit
  obtain ⟨-, hartifact, hmetadata⟩ := CachedArtifact.mk.inj heq
  exact ⟨hhit, later, handle, before, i, hhistory, hlast, hartifact.symm, hmetadata.symm⟩

end

end ScriptCache
