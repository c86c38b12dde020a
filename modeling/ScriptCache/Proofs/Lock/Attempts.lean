import Mathlib
import ScriptCache.Lock.FileLock
import ScriptCache.Proofs.Lock.Backoff
import ScriptCache.Proofs.Machine.Faults

/-! What is done to obtain a lock.

Nothing is known of the others who want a lock but how they let the attempts to take it end, one
after the other (`answering`). Whatever this sequence of outcomes is, what is done is a number of
attempts that all but the last find the lock held, each with the sleep after it, and a last attempt,
which obtains the lock, fails, or is the last that the policy has (`lockFile_exchange`). From this
follows how often is tried, how long is slept and what is said (`lockFile_within_budget`), and the
same on a machine, where the time that passes is the time slept (`run_lockFile`). -/
namespace ScriptCache

/-! ### Routines and what answers them -/

/-- What a routine does, its result, and the state that what answers it is left in. -/
structure Exchange (σ α : Type) where
  actions : List Action
  result : α
  state : σ

namespace Exchange

variable {σ α : Type}

/-- An exchange with some actions before it. -/
def after (actions : List Action) (c : Exchange σ α) : Exchange σ α :=
  { c with actions := actions ++ c.actions }

theorem after_after (first second : List Action) (c : Exchange σ α) :
    (c.after second).after first = c.after (first ++ second) := by
  simp only [after, List.append_assoc]

end Exchange

namespace Routine

variable {σ α β : Type}

/-- The exchange of a routine with something that answers its actions and has a state of its own. -/
def exchange (answer : σ → (action : Action) → action.Reply × σ) : Routine α → σ → Exchange σ α
  | done a, s => ⟨[], a, s⟩
  | act action next, s =>
    ((next (answer s action).1).exchange answer (answer s action).2).after [action]

variable {answer : σ → (action : Action) → action.Reply × σ} {s : σ}

theorem exchange_pure (a : α) : (pure a : Routine α).exchange answer s = ⟨[], a, s⟩ := rfl

theorem exchange_perform_bind (action : Action) (f : action.Reply → Routine β) :
    (perform action >>= f).exchange answer s =
      ((f (answer s action).1).exchange answer (answer s action).2).after [action] := rfl

theorem exchange_bind (routine : Routine α) (f : α → Routine β) :
    (routine >>= f).exchange answer s =
      ((f (routine.exchange answer s).result).exchange answer
        (routine.exchange answer s).state).after (routine.exchange answer s).actions := by
  show (routine.bind f).exchange answer s = _
  induction routine generalizing s with
  | done a => rfl
  | act action next ih =>
    rw [bind, exchange, ih, Exchange.after_after]
    rfl

end Routine

/-- Answers attempts to lock by a sequence of outcomes, from the given one on, and all else in any
way at all. -/
def answering (outcomes : Nat → LockReply) (others : (action : Action) → action.Reply) (n : Nat) :
    (action : Action) → action.Reply × Nat
  | .tryLock .. => (outcomes n, n + 1)
  | action => (others action, n)

theorem answering_tryLock (outcomes : Nat → LockReply)
    (others : (action : Action) → action.Reply) (n : Nat) (handle : Handle) (mode : LockMode) :
    answering outcomes others n (.tryLock handle mode) = (outcomes n, n + 1) := rfl

/-! ### Attempts -/

namespace FileLock

variable {handle : Handle} {path : String} {mode : LockMode} {policy : RetryPolicy}
  {outcomes : Nat → LockReply} {others : (action : Action) → action.Reply} {n left : Nat}
  {warned : Bool}

theorem attempt_granted (h : outcomes n = .granted) :
    (attempt handle path mode policy (left + 1) warned).exchange (answering outcomes others) n =
      ⟨.tryLock handle mode :: if warned then [.say (acquiredLate path)] else [],
        .ok ⟨path, handle, mode, true⟩, n + 1⟩ := by
  rw [attempt, Routine.exchange_perform_bind, answering_tryLock, h]
  cases warned <;> rfl

theorem attempt_failed {e : SysError} (h : outcomes n = .failed e) :
    (attempt handle path mode policy (left + 1) warned).exchange (answering outcomes others) n =
      ⟨[.tryLock handle mode], .error (.io e), n + 1⟩ := by
  rw [attempt, Routine.exchange_perform_bind, answering_tryLock, h]
  rfl

theorem attempt_contended (h : outcomes n = .held) :
    (attempt handle path mode policy (left + 1) warned).exchange (answering outcomes others) n =
      ((attempt handle path mode policy left true).exchange
        (answering outcomes others) (n + 1)).after
        (.tryLock handle mode :: (if warned then [] else [.say (contended path mode)]) ++
          if left = 0 then [] else [.sleep (policy.backoff (policy.attempts - (left + 1)))]) := by
  rw [attempt, Routine.exchange_perform_bind, answering_tryLock, h]
  by_cases hleft : left = 0
  · subst hleft
    cases warned <;> rfl
  · simp only [ne_eq, hleft, not_false_eq_true, if_true, if_false]
    cases warned <;> rfl

/-- What refuses a lock closes the file. -/
theorem exchange_refusal (handle : Handle) (e : LockError) :
    Routine.exchange (answering outcomes others) (do
      Routine.perform (.closeFile handle)
      return (.error e : Except LockError FileLock)) n = ⟨[.closeFile handle], .error e, n⟩ := rfl

/-- What is done about the first attempts when all of them find the lock held, and another one
follows. -/
def waiting (handle : Handle) (path : String) (mode : LockMode) (policy : RetryPolicy) :
    Nat → List Action
  | 0 => []
  | n + 1 => waiting handle path mode policy n ++
    (.tryLock handle mode :: (if n = 0 then [.say (contended path mode)] else []) ++
      [.sleep (policy.backoff n)])

/-- As long as the lock is held, one attempt follows the other. -/
theorem attempt_waiting (hn : n < policy.attempts) (hheld : ∀ k < n, outcomes k = .held) :
    (attempt handle path mode policy policy.attempts false).exchange (answering outcomes others) 0 =
      ((attempt handle path mode policy (policy.attempts - n) (decide (n ≠ 0))).exchange
        (answering outcomes others) n).after (waiting handle path mode policy n) := by
  induction n with
  | zero => rfl
  | succ n ih =>
    have hleft : policy.attempts - n = policy.attempts - (n + 1) + 1 := by omega
    have hmore : policy.attempts - (n + 1) ≠ 0 := by omega
    have hindex : policy.attempts - (policy.attempts - (n + 1) + 1) = n := by omega
    rw [ih (Nat.lt_of_succ_lt hn) fun k hk => hheld k (Nat.lt_succ_of_lt hk), hleft,
      attempt_contended (hheld n (Nat.lt_succ_self n)), Exchange.after_after, if_neg hmore, hindex,
      waiting]
    by_cases hfirst : n = 0
    · subst hfirst
      rfl
    · simp [hfirst]

/-- What is done after the last attempt, and what is answered: the lock was granted or could not be
asked for, or it was held and no attempt is left. -/
inductive LastAttempt (handle : Handle) (path : String) (mode : LockMode) (policy : RetryPolicy)
    (outcomes : Nat → LockReply) (n : Nat) : List Action → Except LockError FileLock → Prop
  | granted (h : outcomes n = .granted) : LastAttempt handle path mode policy outcomes n
    (if n = 0 then [] else [.say (acquiredLate path)]) (.ok ⟨path, handle, mode, true⟩)
  | failed {e : SysError} (h : outcomes n = .failed e) :
    LastAttempt handle path mode policy outcomes n [.closeFile handle] (.error (.io e))
  | timeout (h : outcomes n = .held) (hlast : n + 1 = policy.attempts) :
    LastAttempt handle path mode policy outcomes n
      ((if n = 0 then [.say (contended path mode)] else []) ++ [.closeFile handle])
      (.error (.timeout policy.attempts))

/-- The attempts that find the lock held, up to one that does not or that is the last. -/
theorem exists_last_attempt (policy : RetryPolicy) (outcomes : Nat → LockReply) :
    ∃ n < policy.attempts, (∀ k < n, outcomes k = .held) ∧
      (outcomes n ≠ .held ∨ n + 1 = policy.attempts) := by
  have hsome : 0 < policy.attempts := Nat.le_max_right policy.maxAttempts.toNat 1
  -- Of the attempts that are not passed over, the last one at the latest, the first.
  have hexists : ∃ n, outcomes n ≠ .held ∨ n + 1 = policy.attempts :=
    ⟨policy.attempts - 1, .inr (Nat.succ_pred_eq_of_pos hsome)⟩
  refine ⟨Nat.find hexists, ?_, fun k hk => ?_, Nat.find_spec hexists⟩
  · have hle : Nat.find hexists ≤ policy.attempts - 1 :=
      Nat.find_min' hexists (.inr (Nat.succ_pred_eq_of_pos hsome))
    omega
  · have hpassed := Nat.find_min hexists hk
    exact not_not.mp (not_or.mp hpassed).1

/-- All that is done to lock a file: some attempts that find the lock held, and a last one. -/
theorem lockFile_exchange (handle : Handle) (path : String) (mode : LockMode) (policy : RetryPolicy)
    (outcomes : Nat → LockReply) (others : (action : Action) → action.Reply) :
    ∃ n < policy.attempts, (∀ k < n, outcomes k = .held) ∧
      ∃ last result, LastAttempt handle path mode policy outcomes n last result ∧
        (lockFile handle path mode policy).exchange (answering outcomes others) 0 =
          ⟨waiting handle path mode policy n ++ .tryLock handle mode :: last, result, n + 1⟩ := by
  obtain ⟨n, hn, hheld, hend⟩ := exists_last_attempt policy outcomes
  refine ⟨n, hn, hheld, ?_⟩
  obtain ⟨left, hleft⟩ : ∃ left, policy.attempts - n = left + 1 :=
    Nat.exists_eq_succ_of_ne_zero (by omega)
  rw [lockFile, Routine.exchange_bind, attempt_waiting hn hheld, hleft]
  cases houtcome : outcomes n with
  | granted =>
    refine ⟨_, _, .granted houtcome, ?_⟩
    rw [attempt_granted houtcome]
    simp [Exchange.after, Routine.exchange_pure]
  | failed e =>
    refine ⟨_, _, .failed houtcome, ?_⟩
    rw [attempt_failed houtcome]
    simp [Exchange.after, exchange_refusal]
  | held =>
    have hlast : n + 1 = policy.attempts := hend.resolve_left (not_not.mpr houtcome)
    obtain rfl : left = 0 := by omega
    refine ⟨_, _, .timeout houtcome hlast, ?_⟩
    rw [attempt_contended houtcome]
    simp [Exchange.after, attempt, Routine.exchange_pure, exchange_refusal]

/-! ### The budget -/

/-- Whether an action is an attempt or a sleep. -/
def paces : Action → Bool
  | .tryLock .. | .sleep _ => true
  | _ => false

/-- The spans that some actions sleep. -/
def sleeps (actions : List Action) : List Duration :=
  actions.filterMap fun
    | .sleep span => some span
    | _ => none

/-- The nanoseconds that some actions sleep in all. -/
def slept (actions : List Action) : Nat :=
  ((sleeps actions).map Duration.nanoseconds).sum

/-- The warnings among what some actions say. -/
def warnings (actions : List Action) : List Event :=
  actions.filterMap fun
    | .say event => if event.level = .warn then some event else none
    | _ => none

theorem sleeps_append (first second : List Action) :
    sleeps (first ++ second) = sleeps first ++ sleeps second :=
  List.filterMap_append

theorem warnings_append (first second : List Action) :
    warnings (first ++ second) = warnings first ++ warnings second :=
  List.filterMap_append

theorem paces_waiting (n : Nat) : (waiting handle path mode policy n).filter paces =
    (List.range n).flatMap fun k => [.tryLock handle mode, .sleep (policy.backoff k)] := by
  induction n with
  | zero => rfl
  | succ n ih =>
    rw [waiting, List.filter_append, ih, List.range_succ, List.flatMap_append]
    split <;> rfl

theorem sleeps_waiting (n : Nat) :
    sleeps (waiting handle path mode policy n) = (List.range n).map policy.backoff := by
  induction n with
  | zero => rfl
  | succ n ih =>
    rw [waiting, sleeps_append, ih, List.range_succ, List.map_append]
    split <;> rfl

theorem warnings_waiting (n : Nat) : warnings (waiting handle path mode policy n) =
    if n = 0 then [] else [contended path mode] := by
  induction n with
  | zero => rfl
  | succ n ih =>
    rw [waiting, warnings_append, ih, if_neg (Nat.succ_ne_zero n)]
    split <;> rfl

/-- How a file is locked within the budget of a policy, the attempts ending as they do. -/
structure WithinBudget (handle : Handle) (path : String) (mode : LockMode) (policy : RetryPolicy)
    (outcomes : Nat → LockReply) (tries : Nat) (actions : List Action)
    (result : Except LockError FileLock) : Prop where
  bounded : 1 ≤ tries ∧ tries ≤ policy.attempts
  goesOn : ∀ n, n + 1 < tries → outcomes n = .held
  stops : tries < policy.attempts → outcomes (tries - 1) ≠ .held
  /-- A sleep follows each attempt that finds the lock held, but for the last that there is. -/
  paced : actions.filter paces = (List.range tries).flatMap fun n => .tryLock handle mode ::
    if outcomes n = .held ∧ n + 1 < policy.attempts then [.sleep (policy.backoff n)] else []
  capped : ∀ span ∈ sleeps actions, span.nanoseconds ≤ policy.cap.nanoseconds
  ascending : (sleeps actions).Pairwise fun a b => a.nanoseconds ≤ b.nanoseconds
  waited : ∀ longest, policy.maxWait = some longest → slept actions ≤ longest.nanoseconds
  waitedOnTimeout : ∀ longest tried, policy.maxWait = some longest →
    result = .error (.timeout tried) → slept actions = longest.nanoseconds
  warned : warnings actions =
    if ∃ n, n < tries ∧ outcomes n = .held then [contended path mode] else []
  granted : ∀ lock, result = .ok lock ↔
    outcomes (tries - 1) = .granted ∧ lock = ⟨path, handle, mode, true⟩
  failed : ∀ e, result = .error (.io e) ↔ outcomes (tries - 1) = .failed e
  timeout : ∀ tried, result = .error (.timeout tried) ↔
    tried = policy.attempts ∧ ∀ n < policy.attempts, outcomes n = .held

variable {last : List Action} {result : Except LockError FileLock}

namespace LastAttempt

/-- An attempt that finds the lock held is the last only if there are no more. -/
theorem ends (h : LastAttempt handle path mode policy outcomes n last result)
    (hheld : outcomes n = .held) : n + 1 = policy.attempts := by
  cases h with
  | granted hgranted => rw [hgranted] at hheld; cases hheld
  | failed hfailed => rw [hfailed] at hheld; cases hheld
  | timeout _ hlast => exact hlast

/-- After the last attempt there is no other, and no sleep. -/
theorem rests (h : LastAttempt handle path mode policy outcomes n last result) :
    last.filter paces = [] ∧ sleeps last = [] := by
  cases h with
  | granted => split <;> exact ⟨rfl, rfl⟩
  | failed => exact ⟨rfl, rfl⟩
  | timeout => split <;> exact ⟨rfl, rfl⟩

/-- After the last attempt is warned only if it is the first and finds the lock held. -/
theorem warns (h : LastAttempt handle path mode policy outcomes n last result) :
    warnings last = if n = 0 ∧ outcomes n = .held then [contended path mode] else [] := by
  cases h with
  | granted hgranted =>
    rw [hgranted]
    split <;> simp [warnings, acquiredLate]
  | failed hfailed =>
    rw [hfailed]
    simp [warnings]
  | timeout hheld =>
    rw [hheld]
    split <;> simp_all [warnings, contended]

theorem timeout_iff (h : LastAttempt handle path mode policy outcomes n last result)
    (hn : n < policy.attempts) (hheld : ∀ k < n, outcomes k = .held) (tried : Nat) :
    result = .error (.timeout tried) ↔
      tried = policy.attempts ∧ ∀ k < policy.attempts, outcomes k = .held := by
  cases h with
  | granted hgranted =>
    refine ⟨nofun, fun hall => ?_⟩
    have hheld := hall.2 n hn
    rw [hgranted] at hheld
    cases hheld
  | failed hfailed =>
    refine ⟨nofun, fun hall => ?_⟩
    have hheld := hall.2 n hn
    rw [hfailed] at hheld
    cases hheld
  | timeout hlastHeld hlast =>
    constructor
    · rintro ⟨⟩
      refine ⟨rfl, fun k hk => ?_⟩
      rcases Nat.lt_succ_iff_lt_or_eq.mp (hlast ▸ hk) with hk | rfl
      · exact hheld k hk
      · exact hlastHeld
    · rintro ⟨rfl, -⟩
      rfl

end LastAttempt

/-- Some attempts that find the lock held and a last one keep within the budget. -/
theorem withinBudget_of_last (hn : n < policy.attempts) (hheld : ∀ k < n, outcomes k = .held)
    (h : LastAttempt handle path mode policy outcomes n last result) :
    WithinBudget handle path mode policy outcomes (n + 1)
      (waiting handle path mode policy n ++ .tryLock handle mode :: last) result := by
  obtain ⟨hunpaced, hsleepless⟩ := h.rests
  have hsleeps : sleeps (waiting handle path mode policy n ++ .tryLock handle mode :: last) =
      (List.range n).map policy.backoff := by
    have hattempt : sleeps (.tryLock handle mode :: last) = sleeps last := rfl
    rw [sleeps_append, sleeps_waiting, hattempt, hsleepless, List.append_nil]
  have htimeout := h.timeout_iff hn hheld
  refine {
    bounded := ⟨Nat.le_add_left 1 n, hn⟩
    goesOn := fun k hk => hheld k (Nat.lt_of_succ_lt_succ hk)
    stops := fun hmore hlast => Nat.ne_of_lt hmore (h.ends hlast)
    paced := ?_
    capped := ?_
    ascending := ?_
    waited := fun longest hlongest => ?_
    waitedOnTimeout := fun longest tried hlongest hresult => ?_
    warned := ?_
    granted := fun lock => ?_
    failed := fun e => ?_
    timeout := htimeout }
  · have hattempt : (Action.tryLock handle mode :: last).filter paces =
        .tryLock handle mode :: last.filter paces := rfl
    have hlast : ¬ (outcomes n = .held ∧ n + 1 < policy.attempts) := fun hmore =>
      Nat.ne_of_lt hmore.2 (h.ends hmore.1)
    rw [List.filter_append, paces_waiting, hattempt, hunpaced, List.range_succ, List.flatMap_append]
    congr 1
    · refine List.flatMap_congr fun k hk => ?_
      have hkn : k < n := List.mem_range.mp hk
      rw [if_pos ⟨hheld k hkn, by omega⟩]
    · simp [hlast]
  · rw [hsleeps]
    intro span hspan
    obtain ⟨k, -, rfl⟩ := List.mem_map.mp hspan
    exact policy.backoff_le_cap k
  · rw [hsleeps, List.pairwise_map]
    exact List.pairwise_lt_range.imp fun hlt => policy.backoff_mono (Nat.le_of_lt hlt)
  · rw [slept, hsleeps, ← RetryPolicy.total_eq_sum, policy.maxWait_eq_some.mp hlongest]
    exact policy.total_mono (Nat.le_sub_one_of_lt hn)
  · have hlast := h.ends (((htimeout tried).mp hresult).2 n hn)
    rw [slept, hsleeps, ← RetryPolicy.total_eq_sum, policy.maxWait_eq_some.mp hlongest, ← hlast,
      Nat.add_sub_cancel]
  · have hattempt : warnings (.tryLock handle mode :: last) = warnings last := rfl
    rw [warnings_append, warnings_waiting, hattempt, h.warns]
    by_cases hfirst : n = 0
    · subst hfirst
      simp
    · have hcontended : ∃ k, k < n + 1 ∧ outcomes k = .held :=
        ⟨0, Nat.succ_pos n, hheld 0 (Nat.pos_of_ne_zero hfirst)⟩
      rw [if_neg hfirst, if_neg fun hnow => hfirst hnow.1, if_pos hcontended, List.append_nil]
  · rw [Nat.add_sub_cancel]
    cases h with
    | granted hgranted => simp [hgranted, eq_comm]
    | failed hfailed => simp [hfailed]
    | timeout hheld => simp [hheld]
  · rw [Nat.add_sub_cancel]
    cases h with
    | granted hgranted => simp [hgranted]
    | failed hfailed => simp [hfailed]
    | timeout hheld => simp [hheld]

/-- Whatever the attempts to lock a file end in, one after the other: there are at most as many as
the policy has, and no more after the first that does not find the lock held. This one decides the
result, and if all find it held, that is the result. In between are the policy's sleeps, together
at most the longest wait. The contention is said once. -/
theorem lockFile_within_budget (handle : Handle) (path : String) (mode : LockMode)
    (policy : RetryPolicy) (outcomes : Nat → LockReply)
    (others : (action : Action) → action.Reply) :
    ∃ tries, WithinBudget handle path mode policy outcomes tries
      ((lockFile handle path mode policy).exchange (answering outcomes others) 0).actions
      ((lockFile handle path mode policy).exchange (answering outcomes others) 0).result := by
  obtain ⟨n, hn, hheld, last, result, hlast, hexchange⟩ :=
    lockFile_exchange handle path mode policy outcomes others
  rw [hexchange]
  exact ⟨n + 1, withinBudget_of_last hn hheld hlast⟩

end FileLock

/-! ### On a machine -/

/-- Whether an action is an attempt to lock, or one that is answered by nothing and leaves the disk
as it is. -/
def Action.Locking : Action → Prop
  | .tryLock .. | .say _ | .sleep _ | .closeFile _ => True
  | _ => False

theorem answering_succ (outcomes : Nat → LockReply) (others : (action : Action) → action.Reply)
    (n : Nat) (action : Action) : answering outcomes others (n + 1) action =
      ((answering (fun k => outcomes (k + 1)) others n action).1,
        (answering (fun k => outcomes (k + 1)) others n action).2 + 1) := by
  cases action <;> rfl

namespace Routine

variable {σ α : Type} {routine : Routine α}

/-- From a later outcome on, an exchange is what it is without the outcomes before. -/
theorem exchange_answering_succ (routine : Routine α) (outcomes : Nat → LockReply)
    (others : (action : Action) → action.Reply) (n : Nat) :
    routine.exchange (answering outcomes others) (n + 1) =
      { routine.exchange (answering (fun k => outcomes (k + 1)) others) n with
        state := (routine.exchange
          (answering (fun k => outcomes (k + 1)) others) n).state + 1 } := by
  induction routine generalizing n with
  | done a => rfl
  | act action next ih =>
    rw [exchange, answering_succ, ih]
    rfl

/-- Of what answers a routine that only locks, the outcomes of the attempts are all that counts. -/
theorem exists_outcomes (h : routine.Takes Action.Locking)
    (answer : σ → (action : Action) → action.Reply × σ) (s : σ) :
    ∃ outcomes, ∀ others,
      (routine.exchange (answering outcomes others) 0).actions =
          (routine.exchange answer s).actions ∧
        (routine.exchange (answering outcomes others) 0).result =
          (routine.exchange answer s).result := by
  induction routine generalizing s with
  | done a => exact ⟨fun _ => .held, fun _ => ⟨rfl, rfl⟩⟩
  | act action next ih =>
    obtain ⟨hlocking, hnext⟩ := h
    obtain ⟨outcomes, hexchange⟩ := ih (answer s action).1 (hnext _) (answer s action).2
    cases action with
    | tryLock handle mode =>
      refine ⟨fun
        | 0 => (answer s (.tryLock handle mode)).1
        | k + 1 => outcomes k, fun others => ?_⟩
      obtain ⟨hactions, hresult⟩ := hexchange others
      simp only [exchange, answering, exchange_answering_succ, Exchange.after, hactions, hresult,
        and_self]
    | say | sleep | closeFile =>
      refine ⟨outcomes, fun others => ?_⟩
      obtain ⟨hactions, hresult⟩ := hexchange others
      exact ⟨congrArg (_ :: ·) hactions, hresult⟩
    | _ => exact hlocking.elim

/-- A run is an exchange with the machine. -/
theorem result_exchange_perform (routine : Routine α) (m : Machine) :
    (routine.exchange Machine.perform m).result = (routine.run m).1 := by
  induction routine generalizing m with
  | done a => rfl
  | act action next ih => exact ih _ _

end Routine

namespace FileLock

theorem locking_attempt (handle : Handle) (path : String) (mode : LockMode) (policy : RetryPolicy)
    (left : Nat) (warned : Bool) :
    (attempt handle path mode policy left warned).Takes Action.Locking := by
  induction left generalizing warned with
  | zero => trivial
  | succ left ih =>
    have hsay (event : Event) : (Routine.say event).Takes Action.Locking :=
      Routine.takes_perform trivial
    have hask : (Routine.perform (.tryLock handle mode)).Takes Action.Locking :=
      Routine.takes_perform trivial
    refine hask.bind fun reply => ?_
    cases reply with
    | failed e => trivial
    | granted =>
      cases warned with
      | false => trivial
      | true => exact (hsay _).bind fun _ => trivial
    | held =>
      have hrest : (do
          if left ≠ 0 then
            Routine.perform (.sleep (policy.backoff (policy.attempts - (left + 1))))
          attempt handle path mode policy left true).Takes Action.Locking := by
        by_cases hleft : left ≠ 0
        · rw [if_pos hleft]
          exact Routine.Takes.bind (Routine.takes_perform trivial) fun _ => ih true
        · rw [if_neg hleft]
          exact ih true
      cases warned with
      | true => exact hrest
      | false => exact (hsay _).bind fun _ => hrest

theorem locking_lockFile (handle : Handle) (path : String) (mode : LockMode)
    (policy : RetryPolicy) : (lockFile handle path mode policy).Takes Action.Locking := by
  refine (locking_attempt handle path mode policy _ _).bind fun result => ?_
  cases result with
  | ok lock => trivial
  | error e => exact Routine.Takes.bind (Routine.takes_perform trivial) fun _ => trivial

/-- Of the actions by which a file is locked, only sleeps take time. -/
theorem clock_perform {action : Action} (h : action.Locking) (m : Machine) :
    (m.perform action).2.clock = m.clock + slept [action] := by
  cases action with
  | sleep span => exact Machine.clock_pass m span.nanoseconds
  | tryLock handle mode =>
    simp only [Machine.perform, Machine.tryLock]
    split
    · rfl
    · split <;> rfl
  | say | closeFile => rfl
  | _ => exact h.elim

theorem clock_run {α : Type} {routine : Routine α} (h : routine.Takes Action.Locking)
    (m : Machine) : (routine.run m).2.clock =
      m.clock + slept (routine.exchange Machine.perform m).actions := by
  induction routine generalizing m with
  | done a => rfl
  | act action next ih =>
    rw [Routine.run, ih _ (h.2 _), clock_perform h.1, Routine.exchange, Exchange.after, slept,
      slept, slept, sleeps_append, List.map_append, List.sum_append, Nat.add_assoc]

/-- A file is locked on a machine within the budget too, and the time that passes is what is
slept. -/
theorem run_lockFile (handle : Handle) (path : String) (mode : LockMode) (policy : RetryPolicy)
    (m : Machine) :
    ∃ outcomes tries,
      WithinBudget handle path mode policy outcomes tries
        ((lockFile handle path mode policy).exchange Machine.perform m).actions
        ((lockFile handle path mode policy).run m).1 ∧
      ((lockFile handle path mode policy).run m).2.clock = m.clock +
        slept ((lockFile handle path mode policy).exchange Machine.perform m).actions := by
  have hlocking := locking_lockFile handle path mode policy
  obtain ⟨outcomes, hexchange⟩ := Routine.exists_outcomes hlocking Machine.perform m
  obtain ⟨hactions, hresult⟩ := hexchange fun action => (m.perform action).1
  obtain ⟨n, hn, hheld, last, result, hlast, hlockFile⟩ :=
    lockFile_exchange handle path mode policy outcomes fun action => (m.perform action).1
  refine ⟨outcomes, n + 1, ?_, clock_run hlocking m⟩
  rw [← Routine.result_exchange_perform _ m, ← hactions, ← hresult, hlockFile]
  exact withinBudget_of_last hn hheld hlast

end FileLock

end ScriptCache
