import Mathlib
import ScriptCache.Proofs.Lock.Stake
import ScriptCache.Proofs.Machine.Keeping

/-! Rivals for file locks.

Rivals each have one lock, to obtain, to release any number of times and to drop, and every turn is
the beginning of one of these or one action of one of them: opening a file, asking for a lock, giving
it up, closing. Others work on the same machine with files and locks of their own. `Accounted` says
that the machine backs every rival's stake and that no two of them have a file in common, and every
turn keeps it (`Accounted.step`, `Accounted.run`). -/
namespace ScriptCache

/-! ### Rivals -/

/-- Any number of rivals, each with a lock of its own to ask for, and others beside them. -/
structure Rivals where
  machine : Machine
  /-- What every rival has still to do. -/
  left : List (Routine Standing) := []
  /-- The open files of others. -/
  foreign : List Handle := []

namespace Rivals

/-- What can happen next. -/
inductive Turn where
  /-- A new rival asks for a lock by its path. -/
  | acquire (path : String) (mode : LockMode) (policy : RetryPolicy)
  /-- A new rival is given an open file and asks for a lock on it. Nobody has that file open with
  it: a lock that two handles of one open file share, as the duplicate of a handle would, is left
  out. -/
  | lockFile (handle : Handle) (path : String) (mode : LockMode) (policy : RetryPolicy)
  /-- A rival that has a lock releases it. -/
  | release (k : Nat)
  /-- A rival that has a lock drops it. -/
  | drop (k : Nat)
  /-- A rival takes its next action. -/
  | act (k : Nat)
  /-- Others do something that changes no locks but theirs. -/
  | other (action : Action)

/-- The rival whose turn it is, unless it is a new one. -/
def Turn.rival? : Turn → Option Nat
  | release k | drop k | act k => some k
  | acquire .. | lockFile .. | other _ => none

def start (disk : Disk) (launcher : Launcher) (refuses : Refusals) : Rivals where
  machine := { disk, launcher, refuses }

/-- The lock of a rival that has one and is not busy with it. -/
def lock? (s : Rivals) (k : Nat) : Option FileLock :=
  match s.left[k]? with
  | some (.done (.has lock)) => some lock
  | _ => none

def step (s : Rivals) : Turn → Rivals
  | .acquire path mode policy => { s with left := s.left ++ [Standing.acquiring path mode policy] }
  | .lockFile handle path mode policy =>
    if handle ∈ s.foreign ∧ (s.machine.file? handle).isSome then
      { s with left := s.left ++ [Standing.locking handle path mode policy],
               foreign := s.foreign.filter (· ≠ handle) }
    else s
  | .release k =>
    match s.lock? k with
    | some lock => { s with left := s.left.set k (Standing.releasing lock) }
    | none => s
  | .drop k =>
    match s.lock? k with
    | some lock => { s with left := s.left.set k (Standing.dropping lock) }
    | none => s
  | .act k =>
    match s.left[k]? with
    | some (.act action next) =>
      let (reply, machine) := s.machine.perform action
      { s with machine, left := s.left.set k (next reply) }
    | some (.done _) | none => s
  | .other action =>
    if ∀ handle ∈ action.binds, handle ∈ s.foreign then
      let (reply, machine) := s.machine.perform action
      { s with machine, foreign := action.openAfter s.foreign reply }
    else s

def run (s : Rivals) (turns : List Turn) : Rivals :=
  turns.foldl step s

variable {s : Rivals} {k : Nat} {turn : Turn} {lock : FileLock}

theorem step_act {action : Action} {next : action.Reply → Routine Standing}
    (h : s.left[k]? = some (.act action next)) : s.step (.act k) =
      { s with machine := (s.machine.perform action).2,
               left := s.left.set k (next (s.machine.perform action).1) } := by
  simp only [step, h]

theorem left_of_lock? (h : s.lock? k = some lock) : s.left[k]? = some (.done (.has lock)) := by
  unfold lock? at h
  split at h
  · rename_i held hleft
    cases h
    exact hleft
  · cases h

/-- What a rival has left to do changes in its own turns only. -/
theorem left_step (hlt : k < s.left.length) (hturn : turn.rival? ≠ some k) :
    (s.step turn).left[k]? = s.left[k]? := by
  have hother {j : Nat} (h : (some j : Option Nat) ≠ some k) (left : Routine Standing) :
      (s.left.set j left)[k]? = s.left[k]? :=
    List.getElem?_set_ne fun heq => h (congrArg some heq)
  cases turn with
  | acquire path mode policy => exact List.getElem?_append_left hlt
  | lockFile handle path mode policy =>
    simp only [step]
    split
    · exact List.getElem?_append_left hlt
    · rfl
  | release j | drop j =>
    simp only [step]
    split
    · exact hother hturn _
    · rfl
  | act j =>
    simp only [step]
    split
    · exact hother hturn _
    · rfl
    · rfl
  | other action =>
    simp only [step]
    split <;> rfl

theorem lock?_step (h : s.lock? k = some lock) (hturn : turn.rival? ≠ some k) :
    (s.step turn).lock? k = some lock := by
  have hleft := left_of_lock? h
  have hlt : k < s.left.length := (List.getElem?_eq_some_iff.mp hleft).1
  rw [lock?, left_step hlt hturn, hleft]

/-! ### What every turn keeps -/

/-- Whether no two rivals have a file in common. -/
def Unshared (stake : Nat → Stake) : Prop :=
  ∀ ⦃j k handle lock lock'⦄, stake j = some (handle, lock) → stake k = some (handle, lock') → j = k

/-- A rival may take a file that is at stake for nobody else. -/
theorem Unshared.update {stake : Nat → Stake} (h : Unshared stake) {new : Stake}
    (hnew : ∀ {j handle lock lock'}, j ≠ k → new = some (handle, lock) →
      stake j ≠ some (handle, lock')) : Unshared (Function.update stake k new) := by
  intro i j handle lock lock' hi hj
  by_cases hik : i = k <;> by_cases hjk : j = k
  · rw [hik, hjk]
  · rw [hik, Function.update_self] at hi
    rw [Function.update_of_ne hjk] at hj
    exact absurd hj (hnew hjk hi)
  · rw [hjk, Function.update_self] at hj
    rw [Function.update_of_ne hik] at hi
    exact absurd hi (hnew hik hj)
  · rw [Function.update_of_ne hik] at hi
    rw [Function.update_of_ne hjk] at hj
    exact h hi hj

/-- Whether a rival has at stake what the machine has and what others do not know of, and goes on
minding it. -/
structure Account (s : Rivals) (k : Nat) (stake : Stake) : Prop where
  backs : s.machine.Backs stake
  stakes : ∀ {left : Routine Standing}, s.left[k]? = some left → left.Stakes Standing.Tallies stake
  vacant : s.left.length ≤ k → stake = none
  own : ∀ handle lock, stake = some (handle, lock) → handle ∉ s.foreign

/-- Whether every rival's account is in order, and none is of another's file. -/
structure Accounted (s : Rivals) (stake : Nat → Stake) : Prop where
  apart : s.machine.LocksApart
  quiet : s.machine.releases = []
  account : ∀ k, s.Account k (stake k)
  unshared : Unshared stake
  known : ∀ handle ∈ s.foreign, handle < s.machine.files.length

variable {stake : Nat → Stake}

theorem accounted_start (disk : Disk) (launcher : Launcher) (refuses : Refusals) :
    (start disk launcher refuses).Accounted fun _ => none where
  apart := ⟨fun {handle} _ _ _ _ _ _ hfile => by cases handle <;> cases hfile⟩
  quiet := rfl
  account _ := ⟨nofun, nofun, fun _ => rfl, nofun⟩
  unshared := nofun
  known := nofun

theorem Accounted.stake_eq (h : s.Accounted stake) (hlock : s.lock? k = some lock) :
    stake k = lock.stake :=
  (h.account k).stakes (left_of_lock? hlock)

/-- A rival that joins brings nothing, or a file that was foreign. -/
theorem Accounted.join (h : s.Accounted stake) {left : Routine Standing} {new : Stake}
    {foreign : List Handle} (hleft : left.Stakes Standing.Tallies new) (hbacks : s.machine.Backs new)
    (hnew : ∀ handle lock, new = some (handle, lock) → handle ∈ s.foreign ∧ handle ∉ foreign)
    (hforeign : ∀ handle ∈ foreign, handle ∈ s.foreign) :
    ({ s with left := s.left ++ [left], foreign } : Rivals).Accounted
      (Function.update stake s.left.length new) := by
  refine ⟨h.apart, h.quiet, (Function.forall_update_iff stake _).mpr ⟨?joined, fun k hk => ?before⟩,
    h.unshared.update fun _ hsome htheirs => (h.account _).own _ _ htheirs (hnew _ _ hsome).1,
    fun handle hmem => h.known handle (hforeign handle hmem)⟩
  case joined =>
    refine ⟨hbacks, fun hfound => ?_, fun hle => ?_, fun handle lock hsome => (hnew _ _ hsome).2⟩
    · rw [List.getElem?_concat_length] at hfound
      cases hfound
      exact hleft
    · simp at hle
  case before =>
    have hbefore := h.account k
    refine ⟨hbefore.backs, fun hfound => hbefore.stakes ?_, fun hle => hbefore.vacant ?_,
      fun handle lock hsome hmem => hbefore.own handle lock hsome (hforeign handle hmem)⟩
    · have hlt := (List.getElem?_eq_some_iff.mp hfound).1
      rw [List.length_append, List.length_singleton] at hlt
      rwa [List.getElem?_append_left (by omega)] at hfound
    · rw [List.length_append] at hle
      omega

/-- A rival that has a lock is asked to do something with it. -/
theorem Accounted.call (h : s.Accounted stake) (hlock : s.lock? k = some lock)
    {left : Routine Standing} (hleft : left.Stakes Standing.Tallies lock.stake) :
    ({ s with left := s.left.set k left } : Rivals).Accounted stake := by
  have hlt : k < s.left.length := (List.getElem?_eq_some_iff.mp (left_of_lock? hlock)).1
  refine ⟨h.apart, h.quiet, fun j => ?_, h.unshared, h.known⟩
  refine ⟨(h.account j).backs, fun hfound => ?_, fun hle => (h.account j).vacant (by simpa using hle),
    (h.account j).own⟩
  by_cases hj : k = j
  · subst hj
    rw [List.getElem?_set_self hlt] at hfound
    cases hfound
    rwa [h.stake_eq hlock]
  · rw [List.getElem?_set_ne hj] at hfound
    exact (h.account j).stakes hfound

theorem quiet_perform {m : Machine} (hquiet : m.releases = []) (action : Action) :
    (m.perform action).2.releases = [] := by
  refine List.eq_nil_iff_forall_not_mem.mpr fun release hmem => ?_
  have hbefore := (Machine.frame_perform m action).releases release hmem
  rw [hquiet] at hbefore
  cases hbefore

/-- A rival binds its own file only. -/
theorem Accounted.not_binds (h : s.Accounted stake) {j : Nat} (hjk : k ≠ j) {action : Action}
    {next : action.Reply → Routine Standing} (hleft : s.left[j]? = some (.act action next))
    {handle : Handle} {lock : Option LockMode} (hstake : stake k = some (handle, lock)) :
    handle ∉ action.binds := by
  intro hmem
  obtain ⟨lock', hmine⟩ := ((h.account j).stakes hleft).1 handle hmem
  exact hjk (h.unshared hstake hmine)

/-- A rival takes an action. -/
theorem Accounted.act (h : s.Accounted stake) {action : Action}
    {next : action.Reply → Routine Standing} (hleft : s.left[k]? = some (.act action next)) :
    (s.step (.act k)).Accounted
      (Function.update stake k (action.stakeAfter (stake k) (s.machine.perform action).1)) := by
  have hlt : k < s.left.length := (List.getElem?_eq_some_iff.mp hleft).1
  have hmine := h.account k
  generalize hafter : action.stakeAfter (stake k) (s.machine.perform action).1 = after
  -- The file at stake is the one that was, or one that nobody knew.
  have hfile {handle : Handle} {lock : Option LockMode} (hsome : after = some (handle, lock)) :
      (∃ before, stake k = some (handle, before)) ∨ handle = s.machine.files.length := by
    rcases Action.stakeAfter_eq_some (hafter.trans hsome) with ⟨before, hbefore, -, -⟩ |
      ⟨path, mode, hdeed, -⟩
    · exact .inl ⟨before, hbefore⟩
    · obtain rfl : action = .openFile path mode := congrArg Deed.action hdeed
      exact .inr (Machine.perform_openFile (eq_of_heq (Deed.mk.inj hdeed).2)).1
  have hothers {j : Nat} {handle : Handle} {lock lock' : Option LockMode} (hj : j ≠ k)
      (hsome : after = some (handle, lock)) : stake j ≠ some (handle, lock') := by
    intro htheirs
    rcases hfile hsome with ⟨before, hbefore⟩ | rfl
    · exact hj (h.unshared htheirs hbefore)
    · obtain ⟨file, hopen, -⟩ := (h.account j).backs _ _ htheirs
      exact Nat.lt_irrefl _ (Machine.lt_of_file? hopen)
  rw [step_act hleft]
  refine ⟨h.apart.perform action, quiet_perform h.quiet action,
    (Function.forall_update_iff stake _).mpr ⟨?mine, fun j hj => ?theirs⟩, h.unshared.update hothers,
    fun handle hmem => Nat.lt_of_lt_of_le (h.known handle hmem)
      (Machine.frame_perform s.machine action).length⟩
  case mine =>
    refine ⟨hafter ▸ hmine.backs.perform h.quiet action, fun hfound => ?_, fun hle => ?_,
      fun handle lock hsome hmem => ?_⟩
    · rw [List.getElem?_set_self hlt] at hfound
      cases hfound
      rw [← hafter]
      exact (hmine.stakes hleft).2 _
    · rw [List.length_set] at hle
      omega
    · rcases hfile hsome with ⟨before, hbefore⟩ | rfl
      · exact hmine.own _ _ hbefore hmem
      · exact Nat.lt_irrefl _ (h.known _ hmem)
  case theirs =>
    have htheirs := h.account j
    refine ⟨htheirs.backs.unbound h.quiet fun _ _ hstake => h.not_binds hj hleft hstake,
      fun hfound => htheirs.stakes ?_, fun hle => htheirs.vacant (by simpa using hle), htheirs.own⟩
    rwa [List.getElem?_set_ne (Ne.symm hj)] at hfound

/-- Others act on files of theirs. -/
theorem Accounted.other (h : s.Accounted stake) {action : Action}
    (hforeign : ∀ handle ∈ action.binds, handle ∈ s.foreign) :
    ({ s with machine := (s.machine.perform action).2,
              foreign := action.openAfter s.foreign (s.machine.perform action).1 } :
      Rivals).Accounted stake := by
  have hframe := Machine.frame_perform s.machine action
  -- What is foreign now was foreign before, or was opened just now.
  have hafter : ∀ handle ∈ action.openAfter s.foreign (s.machine.perform action).1,
      handle ∈ s.foreign ∨
        handle = s.machine.files.length ∧ handle < (s.machine.perform action).2.files.length := by
    intro handle hmem
    cases action with
    | openFile path mode =>
      cases hreply : (s.machine.perform (.openFile path mode)).1 with
      | error e =>
        rw [hreply] at hmem
        exact .inl hmem
      | ok opened =>
        rw [hreply] at hmem
        obtain ⟨rfl, file, hfiles⟩ := Machine.perform_openFile hreply
        rcases List.mem_cons.mp hmem with rfl | hbefore
        · exact .inr ⟨rfl, by simp [hfiles]⟩
        · exact .inl hbefore
    | closeFile other => exact .inl (List.mem_of_mem_erase hmem)
    | _ => exact .inl hmem
  refine ⟨h.apart.perform action, quiet_perform h.quiet action, fun k => ?_, h.unshared,
    fun handle hmem => ?_⟩
  · have hmine := h.account k
    refine ⟨hmine.backs.unbound h.quiet fun handle _ hstake hbinds =>
      hmine.own _ _ hstake (hforeign handle hbinds), hmine.stakes, hmine.vacant,
      fun handle lock hstake hmem => ?_⟩
    rcases hafter handle hmem with hbefore | ⟨rfl, -⟩
    · exact hmine.own _ _ hstake hbefore
    · obtain ⟨file, hopen, -⟩ := hmine.backs _ _ hstake
      exact Nat.lt_irrefl _ (Machine.lt_of_file? hopen)
  · rcases hafter handle hmem with hbefore | ⟨-, hlt⟩
    · exact Nat.lt_of_lt_of_le (h.known handle hbefore) hframe.length
    · exact hlt

theorem Accounted.step (h : s.Accounted stake) (turn : Turn) :
    ∃ stake', (s.step turn).Accounted stake' := by
  cases turn with
  | acquire path mode policy =>
    exact ⟨_, h.join Standing.stakes_acquiring nofun nofun fun _ hmem => hmem⟩
  | lockFile handle path mode policy =>
    simp only [Rivals.step]
    split
    · rename_i hforeign
      obtain ⟨file, hfile⟩ := Option.isSome_iff_exists.mp hforeign.2
      refine ⟨_, h.join (Standing.stakes_locking file.lock) ?_ ?_ fun _ hmem =>
        List.mem_of_mem_filter hmem⟩
      · rintro _ _ ⟨⟩
        exact ⟨file, hfile, rfl⟩
      · rintro _ _ ⟨⟩
        exact ⟨hforeign.1, by simp⟩
    · exact ⟨stake, h⟩
  | release k =>
    simp only [Rivals.step]
    split
    · rename_i lock hlock
      exact ⟨stake, h.call hlock (Standing.stakes_releasing lock)⟩
    · exact ⟨stake, h⟩
  | drop k =>
    simp only [Rivals.step]
    split
    · rename_i lock hlock
      exact ⟨stake, h.call hlock (Standing.stakes_dropping lock)⟩
    · exact ⟨stake, h⟩
  | act k =>
    cases hleft : s.left[k]? with
    | none => exact ⟨stake, by simpa only [Rivals.step, hleft] using h⟩
    | some left =>
      cases left with
      | done standing => exact ⟨stake, by simpa only [Rivals.step, hleft] using h⟩
      | act action next => exact ⟨_, h.act hleft⟩
  | other action =>
    simp only [Rivals.step]
    split
    · rename_i hforeign
      exact ⟨stake, h.other hforeign⟩
    · exact ⟨stake, h⟩

theorem Accounted.run (h : s.Accounted stake) (turns : List Turn) :
    ∃ stake', (s.run turns).Accounted stake' := by
  induction turns generalizing s stake with
  | nil => exact ⟨stake, h⟩
  | cons turn turns ih =>
    obtain ⟨stake', h'⟩ := h.step turn
    exact ih h'

end Rivals

end ScriptCache
