import Mathlib
import ScriptCache.Lock.FileLock
import ScriptCache.Proofs.Store.HeldLocks

/-! What is at stake with a file lock.

A routine that works on one file at a time has at stake that file and the lock on it, which can be
told from what it did and was answered (`Action.stakeAfter`). The machine goes on backing the stake,
whoever acts (`Machine.Backs.perform`, `Machine.Backs.unbound`). Asking for a lock, releasing it and
dropping it change no lock but the one at stake, and end with the stake that the result tells of
(`Standing.Tallies`): the file under the lock's mode where the lock says that it is held, the file
under no lock where it says that it is not, and nothing where there is no lock. -/
namespace ScriptCache

open Routine

/-! ### Stakes -/

/-- The open files whose lock an action may change. -/
def Action.binds : Action → List Handle
  | closeFile handle | tryLock handle _ | unlock handle => [handle]
  | _ => []

theorem Deed.lockAfter_of_not_binds {action : Action} {reply : action.Reply} {handle : Handle}
    (h : handle ∉ action.binds) (lock : Option LockMode) :
    Deed.lockAfter handle lock ⟨action, reply⟩ = lock := by
  cases action with
  | tryLock other mode =>
    have hne : other ≠ handle := fun heq => h (heq ▸ List.mem_singleton_self _)
    cases reply with
    | granted => exact if_neg hne
    | held | failed => rfl
  | unlock other | closeFile other =>
    exact if_neg fun heq : other = handle => h (heq ▸ List.mem_singleton_self _)
  | _ => rfl

/-- Whatever else is done to an open file, it stays the same file under the same lock. -/
theorem Machine.bearing_unbound {m : Machine} {handle : Handle} (hlt : handle < m.files.length)
    (hquiet : m.releases = []) {action : Action} (h : handle ∉ action.binds) :
    ((m.perform action).2.file? handle).map bearing = (m.file? handle).map bearing := by
  have hclose : action ≠ .closeFile handle := by
    rintro rfl
    exact h (List.mem_singleton_self _)
  rw [bearing_perform hlt (by simp [hquiet]), if_neg hclose]
  simp only [Deed.lockAfter_of_not_binds h]
  rfl

/-- A file that a rival has open, if it has one, and the lock on it. -/
abbrev Stake := Option (Handle × Option LockMode)

/-- The stake after an action. -/
def Action.stakeAfter (stake : Stake) : (action : Action) → action.Reply → Stake
  | openFile _ _, .ok handle => some (handle, none)
  | closeFile _, _ => none
  | action, reply => stake.map fun (handle, lock) =>
    (handle, Deed.lockAfter handle lock ⟨action, reply⟩)

/-- Whether the file at stake is open under that lock. -/
def Machine.Backs (m : Machine) (stake : Stake) : Prop :=
  ∀ handle lock, stake = some (handle, lock) → ∃ file, m.file? handle = some file ∧ file.lock = lock

/-- The file at stake after an action was at stake before, or was opened. -/
theorem Action.stakeAfter_eq_some {stake : Stake} {action : Action} {reply : action.Reply}
    {handle : Handle} {lock : Option LockMode} (h : action.stakeAfter stake reply = some (handle, lock)) :
    (∃ before, stake = some (handle, before) ∧ action ≠ .closeFile handle ∧
      Deed.lockAfter handle before ⟨action, reply⟩ = lock) ∨
    ∃ path mode, (⟨action, reply⟩ : Deed) = ⟨.openFile path mode, .ok handle⟩ ∧ lock = none := by
  have hmap (hclose : action ≠ .closeFile handle)
      (h : (stake.map fun s => (s.1, Deed.lockAfter s.1 s.2 ⟨action, reply⟩)) = some (handle, lock)) :
      ∃ before, stake = some (handle, before) ∧ action ≠ .closeFile handle ∧
        Deed.lockAfter handle before ⟨action, reply⟩ = lock := by
    obtain ⟨⟨other, before⟩, hstake, hpair⟩ := Option.map_eq_some_iff.mp h
    cases hpair
    exact ⟨before, hstake, hclose, rfl⟩
  cases action with
  | openFile path mode =>
    cases reply with
    | error e => exact .inl (hmap nofun h)
    | ok opened =>
      cases h
      exact .inr ⟨path, mode, rfl, rfl⟩
  | closeFile other => cases h
  | _ => exact .inl (hmap nofun h)

/-- A file that was just opened is under no lock. -/
theorem Machine.lock_of_openFile {m : Machine} {path : String} {mode : OpenMode} {handle : Handle}
    (h : (m.perform (.openFile path mode)).1 = .ok handle) :
    ∃ file, (m.perform (.openFile path mode)).2.file? handle = some file ∧ file.lock = none := by
  obtain ⟨e, hfailed⟩ | ⟨disk, node, hopened⟩ := openFile_cases m path mode
  · rw [hfailed] at h
    cases h
  · rw [hopened] at h ⊢
    cases h
    exact ⟨_, by rw [file?_addFile]; exact if_pos rfl, rfl⟩

/-- The machine goes on backing a stake whose holder takes an action. -/
theorem Machine.Backs.perform {m : Machine} {stake : Stake} (h : m.Backs stake)
    (hquiet : m.releases = []) (action : Action) :
    (m.perform action).2.Backs (action.stakeAfter stake (m.perform action).1) := by
  intro handle lock hafter
  rcases Action.stakeAfter_eq_some hafter with ⟨before, hstake, hclose, hlock⟩ |
    ⟨path, mode, hdeed, rfl⟩
  · obtain ⟨file, hfile, rfl⟩ := h handle before hstake
    have hbearing := bearing_perform (lt_of_file? hfile) (by simp [hquiet]) action
    rw [hfile, if_neg hclose, Option.map_some, hlock] at hbearing
    obtain ⟨file', hfile', hsame⟩ := Option.map_eq_some_iff.mp hbearing
    exact ⟨file', hfile', congrArg Prod.snd hsame⟩
  · obtain rfl : action = .openFile path mode := congrArg Deed.action hdeed
    exact lock_of_openFile (eq_of_heq (Deed.mk.inj hdeed).2)

/-- The machine goes on backing a stake that somebody else's action does not bind. -/
theorem Machine.Backs.unbound {m : Machine} {stake : Stake} (h : m.Backs stake)
    (hquiet : m.releases = []) {action : Action}
    (hapart : ∀ handle lock, stake = some (handle, lock) → handle ∉ action.binds) :
    (m.perform action).2.Backs stake := by
  intro handle lock hstake
  obtain ⟨file, hfile, rfl⟩ := h handle lock hstake
  have hbearing := bearing_unbound (lt_of_file? hfile) hquiet (hapart handle _ hstake)
  rw [hfile] at hbearing
  obtain ⟨file', hfile', hsame⟩ := Option.map_eq_some_iff.mp hbearing
  exact ⟨file', hfile', congrArg Prod.snd hsame⟩

/-! ### Routines that mind their stake -/

namespace Routine

variable {α β : Type} {stake : Stake}

/-- Whether a routine changes no lock but the one at stake, and ends where `Q` holds of its result
and of the stake that it has then. -/
def Stakes (Q : α → Stake → Prop) : Routine α → Stake → Prop
  | done a, stake => Q a stake
  | act action next, stake => (∀ handle ∈ action.binds, ∃ lock, stake = some (handle, lock)) ∧
    ∀ reply, (next reply).Stakes Q (action.stakeAfter stake reply)

theorem Stakes.bind {Q : β → Stake → Prop} {R : α → Stake → Prop} {routine : Routine α}
    {f : α → Routine β} (h : routine.Stakes R stake)
    (hf : ∀ a after, R a after → (f a).Stakes Q after) : (routine >>= f).Stakes Q stake := by
  show (routine.bind f).Stakes Q stake
  induction routine generalizing stake with
  | done a => exact hf a stake h
  | act action next ih => exact ⟨h.1, fun reply => ih reply (h.2 reply)⟩

/-- What a routine does to the file at stake. -/
theorem Stakes.at_stake {Q : β → Stake → Prop} {action : Action} {f : action.Reply → Routine β}
    {handle : Handle} {lock : Option LockMode} (hbinds : action.binds = [handle])
    (h : ∀ reply, (f reply).Stakes Q (action.stakeAfter (some (handle, lock)) reply)) :
    (perform action >>= f).Stakes Q (some (handle, lock)) := by
  refine ⟨fun other hother => ?_, h⟩
  rw [hbinds] at hother
  exact ⟨lock, by rw [List.mem_singleton.mp hother]⟩

/-- What is said and slept leaves the stake as it is. -/
theorem Stakes.after_pause {Q : β → Stake → Prop} {action : Action} {f : action.Reply → Routine β}
    (hbinds : action.binds = []) (hsame : ∀ reply, action.stakeAfter stake reply = stake)
    (h : ∀ reply, (f reply).Stakes Q stake) : (perform action >>= f).Stakes Q stake := by
  refine ⟨fun handle hmem => ?_, fun reply => ?_⟩
  · rw [hbinds] at hmem
    cases hmem
  · show (f reply).Stakes Q (action.stakeAfter stake reply)
    rw [hsame reply]
    exact h reply

end Routine

/-- What is at stake with a lock: its file, and while it is held, the lock on it. -/
def FileLock.stake (lock : FileLock) : Stake :=
  some (lock.handle, if lock.held then some lock.mode else none)

/-- Where a rival stands once it is through with what it was asked for. -/
inductive Standing where
  | has (lock : FileLock)
  | refused (e : LockError)
  | gone
  deriving DecidableEq

namespace Standing

def ofResult : Except LockError FileLock → Standing
  | .ok lock => has lock
  | .error e => refused e

/-- Who has a lock has at stake what belongs to it, the others have nothing. -/
def Tallies : Standing → Stake → Prop
  | has lock, stake => stake = lock.stake
  | refused _, stake | gone, stake => stake = none

/-- What a rival does that asks for a lock by its path. -/
def acquiring (path : String) (mode : LockMode) (policy : RetryPolicy) : Routine Standing := do
  return ofResult (← FileLock.acquire path mode policy)

/-- What a rival does that asks for a lock on an open file. -/
def locking (handle : Handle) (path : String) (mode : LockMode) (policy : RetryPolicy) :
    Routine Standing := do
  return ofResult (← FileLock.lockFile handle path mode policy)

/-- What a rival has left to do whose lock file is there and may not be written. -/
def reopening (path : String) (mode : LockMode) (policy : RetryPolicy) : Routine Standing := do
  match ← perform (.openFile path .read) with
  | .error e => return refused (.io e)
  | .ok handle => locking handle path mode policy

def releasing (lock : FileLock) : Routine Standing := do
  return has (← lock.release)

def dropping (lock : FileLock) : Routine Standing := do
  lock.drop
  return gone

variable {handle : Handle} {path : String} {mode : LockMode} {policy : RetryPolicy}

/-- What is at stake after some attempts to lock an open file: what belongs to the lock that was
obtained, or the file still. -/
def Tried (handle : Handle) : Except LockError FileLock → Stake → Prop
  | .ok lock, stake => stake = lock.stake
  | .error _, stake => ∃ lock, stake = some (handle, lock)

theorem stakes_attempt (before : Option LockMode) (left : Nat) (warned : Bool) :
    (FileLock.attempt handle path mode policy left warned).Stakes (Tried handle)
      (some (handle, before)) := by
  induction left generalizing warned with
  | zero => exact ⟨before, rfl⟩
  | succ left ih =>
    refine Stakes.at_stake rfl fun reply => ?_
    cases reply with
    | failed e => exact ⟨before, rfl⟩
    | granted =>
      have hstake : (Action.tryLock handle mode).stakeAfter (some (handle, before)) .granted =
          (⟨path, handle, mode, true⟩ : FileLock).stake := by
        simp [Action.stakeAfter, Deed.lockAfter, FileLock.stake]
      rw [hstake]
      cases warned with
      | false => exact rfl
      | true => exact Stakes.after_pause rfl (fun _ => rfl) fun _ => rfl
    | held =>
      -- The lock on the file is what it was before.
      have hrest : (do
          if left ≠ 0 then perform (.sleep (policy.backoff (policy.attempts - (left + 1))))
          FileLock.attempt handle path mode policy left true).Stakes (Tried handle)
          (some (handle, before)) := by
        by_cases hleft : left ≠ 0
        · rw [if_pos hleft]
          exact Stakes.after_pause rfl (fun _ => rfl) fun _ => ih true
        · rw [if_neg hleft]
          exact ih true
      cases warned with
      | true => exact hrest
      | false => exact Stakes.after_pause rfl (fun _ => rfl) fun _ => hrest

theorem stakes_lockFile (before : Option LockMode) :
    (FileLock.lockFile handle path mode policy).Stakes (fun result => (ofResult result).Tallies)
      (some (handle, before)) := by
  refine (stakes_attempt before policy.attempts false).bind fun result stake hstake => ?_
  cases result with
  | ok lock => exact hstake
  | error e =>
    obtain ⟨lock, rfl⟩ := hstake
    exact Stakes.at_stake rfl fun _ => rfl

theorem stakes_locking (before : Option LockMode) :
    (locking handle path mode policy).Stakes Tallies (some (handle, before)) :=
  (stakes_lockFile before).bind fun _ _ h => h

/-- Who opened a lock file has it at stake, under no lock. -/
theorem stakes_openLock : (FileLock.openLock path).Stakes
    (fun reply stake => stake = reply.toOption.map fun handle => (handle, none)) none := by
  refine ⟨nofun, fun reply => ?_⟩
  cases reply with
  | ok handle => exact rfl
  | error e =>
    show (if e.forbids then perform (.openFile path .read) else pure (.error e)).Stakes _ none
    split
    · exact ⟨nofun, fun reply => by cases reply <;> rfl⟩
    · exact rfl

theorem stakes_acquiring : (acquiring path mode policy).Stakes Tallies none := by
  have hacquire : (FileLock.acquire path mode policy).Stakes
      (fun result => (ofResult result).Tallies) none := by
    refine stakes_openLock.bind fun reply stake hstake => ?_
    subst hstake
    cases reply with
    | error e => exact rfl
    | ok handle => exact stakes_lockFile none
  exact hacquire.bind fun _ _ h => h

theorem stakes_release (lock : FileLock) :
    lock.release.Stakes (fun after stake => after = { lock with held := false } ∧
      stake = after.stake) lock.stake := by
  cases hheld : lock.held with
  | false =>
    rw [FileLock.release, hheld]
    exact ⟨rfl, by simp [FileLock.stake, hheld]⟩
  | true =>
    rw [FileLock.release, hheld]
    refine Stakes.at_stake rfl fun _ => ⟨rfl, ?_⟩
    simp [Action.stakeAfter, Deed.lockAfter, FileLock.stake]

theorem stakes_releasing (lock : FileLock) : (releasing lock).Stakes Tallies lock.stake :=
  (stakes_release lock).bind fun _ _ h => h.2

theorem stakes_dropping (lock : FileLock) : (dropping lock).Stakes Tallies lock.stake := by
  have hdrop : lock.drop.Stakes (fun _ stake => stake = none) lock.stake := by
    refine (stakes_release lock).bind ?_
    rintro after _ ⟨rfl, rfl⟩
    exact Stakes.at_stake rfl fun _ => rfl
  exact hdrop.bind fun _ _ h => h

end Standing

end ScriptCache
