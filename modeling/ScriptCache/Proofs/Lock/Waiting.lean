import Mathlib
import ScriptCache.Lock.FileLock
import ScriptCache.Proofs.Machine.Passing
import ScriptCache.Proofs.Machine.Sight

/-! When a lock is granted.

A party that asks for a lock tries as often as its policy says and sleeps in between. Whether
somebody else's lock stands in the way at an attempt depends on the open files of the others and on
the time slept, so the attempt at which the lock is granted can be told beforehand
(`Machine.grantedAt?`); the lock is granted at that attempt and, if there is none, refused
(`Waits`), be it asked for on an open file or by a path (`lockFile_waits`, `acquire_waits`). -/
namespace ScriptCache

namespace Machine

variable {m m' : Machine} {node : NodeId} {mode : LockMode}

/-- Whether an open file has a lock on a node that excludes another lock. -/
def barred (m : Machine) (node : NodeId) (mode : LockMode) : Bool :=
  m.files.any fun file => file.any fun f => f.node == node && f.lock.any (·.excludes mode)

theorem barred_iff : m.barred node mode = true ↔ ∃ handle file held,
    m.file? handle = some file ∧ file.node = node ∧ file.lock = some held ∧
      held.excludes mode = true := by
  simp only [barred, List.any_eq_true, Option.any_eq_true, Bool.and_eq_true, beq_iff_eq]
  constructor
  · rintro ⟨file, hmem, f, rfl, hnode, held, hlock, hexcludes⟩
    obtain ⟨handle, hget⟩ := List.mem_iff_getElem?.mp hmem
    exact ⟨handle, f, held, by rw [file?, hget]; rfl, hnode, hlock, hexcludes⟩
  · rintro ⟨handle, f, held, hfile, hnode, hlock, hexcludes⟩
    refine ⟨some f, List.mem_iff_getElem?.mpr ⟨handle, ?_⟩, f, rfl, hnode, held, hlock, hexcludes⟩
    simpa [file?, Option.join_eq_some_iff] using hfile

/-- The machine as it is at an attempt, with the sleeps passed that come before it. -/
def atAttempt (m : Machine) (policy : RetryPolicy) : Nat → Machine
  | 0 => m
  | n + 1 => (m.atAttempt policy n).pass (policy.backoff n).nanoseconds

/-- The attempt at which a lock on a node is granted, if it is. -/
def grantedAt? (m : Machine) (policy : RetryPolicy) (node : NodeId) (mode : LockMode) : Option Nat :=
  (List.range policy.attempts).find? fun n => !(m.atAttempt policy n).barred node mode

@[simp] theorem disk_atAttempt (m : Machine) (policy : RetryPolicy) (n : Nat) :
    (m.atAttempt policy n).disk = m.disk := by
  induction n with
  | zero => rfl
  | succ n ih => rw [atAttempt, disk_pass, ih]

@[simp] theorem length_atAttempt (m : Machine) (policy : RetryPolicy) (n : Nat) :
    (m.atAttempt policy n).files.length = m.files.length := by
  induction n with
  | zero => rfl
  | succ n ih => rw [atAttempt, length_pass, ih]

theorem ClosesOpened.atAttempt (h : m.ClosesOpened) (policy : RetryPolicy) (n : Nat) :
    (m.atAttempt policy n).ClosesOpened := by
  induction n with
  | zero => exact h
  | succ n ih => exact ih.pass _

theorem atAttempt_addFile (h : m.ClosesOpened) (file : OpenFile) (policy : RetryPolicy) (n : Nat) :
    (m.addFile file).2.atAttempt policy n = ((m.atAttempt policy n).addFile file).2 := by
  induction n with
  | zero => rfl
  | succ n ih => rw [atAttempt, ih, pass_addFile (h.atAttempt policy n), ← atAttempt]

theorem atAttempt_disk (m : Machine) (disk : Disk) (policy : RetryPolicy) (n : Nat) :
    ({ m with disk } : Machine).atAttempt policy n = { m.atAttempt policy n with disk } := by
  induction n with
  | zero => rfl
  | succ n ih => rw [atAttempt, ih, pass_disk, ← atAttempt]

theorem Spoken.atAttempt (h : m.Spoken m') (policy : RetryPolicy) (n : Nat) :
    (m.atAttempt policy n).Spoken (m'.atAttempt policy n) := by
  induction n with
  | zero => exact h
  | succ n ih => exact ih.pass _

theorem Spoken.barred (h : m.Spoken m') (node : NodeId) (mode : LockMode) :
    m'.barred node mode = m.barred node mode := by
  obtain ⟨events, rfl⟩ := h
  rfl

/-- A shared lock does not stand in the way of another. -/
theorem barred_addFile_shared {file : OpenFile} (h : file.lock = some .shared) :
    (m.addFile file).2.barred node .shared = m.barred node .shared := by
  have hnever : (LockMode.shared.excludes .shared) = false := rfl
  simp [barred, addFile, h, hnever]

/-- A party that has a shared lock of its own is granted another one when it would be without. -/
theorem grantedAt?_beside {policy : RetryPolicy} {file : OpenFile} {disk : Disk}
    (hcloses : m.ClosesOpened) (hlock : file.lock = some .shared)
    (hspoken : (({ m with disk } : Machine).addFile file).2.Spoken m') :
    m'.grantedAt? policy node .shared = m.grantedAt? policy node .shared := by
  have hsame (n : Nat) : (m'.atAttempt policy n).barred node .shared =
      (m.atAttempt policy n).barred node .shared := by
    rw [(hspoken.atAttempt policy n).barred, atAttempt_addFile (m := { m with disk }) hcloses,
      barred_addFile_shared hlock, atAttempt_disk]
    rfl
  simp only [grantedAt?, hsame]

/-- What stands in the way of a file that was just opened is what stands in anybody's way. -/
theorem blocked_addFile (file : OpenFile) :
    (m.addFile file).2.blocked m.files.length node mode = m.barred node mode := by
  rw [Bool.eq_iff_iff, blocked_iff, barred_iff]
  constructor
  · rintro ⟨other, f, held, hne, hfile, hfacts⟩
    rw [file?_addFile, if_neg hne] at hfile
    exact ⟨other, f, held, hfile, hfacts⟩
  · rintro ⟨other, f, held, hfile, hfacts⟩
    have hne : other ≠ m.files.length := Nat.ne_of_lt (lt_of_file? hfile)
    exact ⟨other, f, held, hne, by rw [file?_addFile, if_neg hne, hfile], hfacts⟩

theorem setFile_addFile (m : Machine) (file new : OpenFile) :
    (m.addFile file).2.setFile m.files.length (some new) = (m.addFile new).2 := by
  simp [addFile, setFile]

/-- Asking for a lock on a file that was just opened. -/
theorem tryLock_addFile (m : Machine) (file : OpenFile) (mode : LockMode) :
    (m.addFile file).2.tryLock m.files.length mode =
      if m.barred file.node mode then (.held, (m.addFile file).2)
      else (.granted, (m.addFile { file with lock := some mode }).2) := by
  have hfile : (m.addFile file).2.file? m.files.length = some file := by
    rw [file?_addFile, if_pos rfl]
  rw [tryLock, hfile]
  simp only [blocked_addFile, setFile_addFile]

theorem tryLock_held {handle : Handle} (h : (m.tryLock handle mode).1 = .held) :
    m.tryLock handle mode = (.held, m) := by
  rw [tryLock] at h ⊢
  cases hfile : m.file? handle with
  | none =>
    rw [hfile] at h
    cases h
  | some file =>
    simp only [hfile] at h ⊢
    split at h
    · rename_i hblocked
      rw [if_pos hblocked]
    · cases h

theorem Spoken.tryLock (h : m.Spoken m') (handle : Handle) (mode : LockMode) :
    (m'.tryLock handle mode).1 = (m.tryLock handle mode).1 ∧
      (m.tryLock handle mode).2.Spoken (m'.tryLock handle mode).2 := by
  obtain ⟨events, rfl⟩ := h
  simp only [Machine.tryLock, file?]
  cases hfile : (m.files[handle]?).join with
  | none => exact ⟨rfl, events, rfl⟩
  | some file =>
    have hsame : ({ m with said := events ++ m.said } : Machine).blocked handle file.node mode =
        m.blocked handle file.node mode := rfl
    simp only [hsame]
    split
    · exact ⟨rfl, events, rfl⟩
    · exact ⟨rfl, events, rfl⟩

end Machine

/-! ### Attempts -/

section

variable {m m' : Machine} {handle : Handle} {path : String} {mode : LockMode}
  {policy : RetryPolicy} {file : OpenFile}

theorem attempt_free (path : String) (policy : RetryPolicy) (left : Nat) (warned : Bool)
    (h : (m.tryLock handle mode).1 = .granted) :
    ∃ after, (FileLock.attempt handle path mode policy (left + 1) warned).run m =
      (.ok ⟨path, handle, mode, true⟩, after) ∧ (m.tryLock handle mode).2.Spoken after := by
  have hreply : (m.perform (.tryLock handle mode)).1 = .granted := h
  rw [FileLock.attempt, Routine.run_perform_bind, hreply]
  cases warned with
  | false => exact ⟨_, rfl, .refl _⟩
  | true => exact ⟨_, rfl, spoken_say _ _⟩

/-- After an attempt that failed comes the next, with a sleep in between unless it was the last. -/
theorem attempt_held {left : Nat} {warned : Bool} (h : m.tryLock handle mode = (.held, m)) :
    ∃ after, m.Spoken after ∧
      (FileLock.attempt handle path mode policy (left + 1) warned).run m =
        (FileLock.attempt handle path mode policy left true).run
          (if left = 0 then after
            else after.pass (policy.backoff (policy.attempts - (left + 1))).nanoseconds) := by
  have hreply : m.perform (.tryLock handle mode) = (.held, m) := h
  rw [FileLock.attempt, Routine.run_perform_bind, hreply]
  cases warned with
  | false =>
    refine ⟨_, spoken_say (FileLock.contended path mode) _, ?_⟩
    by_cases hleft : left = 0
    · subst hleft
      rfl
    · simp only [ne_eq, hleft, not_false_eq_true, if_true, if_false]
      rfl
  | true =>
    refine ⟨_, .refl _, ?_⟩
    by_cases hleft : left = 0
    · subst hleft
      rfl
    · simp only [ne_eq, hleft, not_false_eq_true, if_true, if_false]
      rfl

/-- How the given attempts at a lock on a file end that was opened on a machine. -/
structure Waits (m : Machine) (file : OpenFile) (path : String) (mode : LockMode)
    (policy : RetryPolicy) (attempts : List Nat)
    (result : Except LockError FileLock × Machine) : Prop where
  granted : ∀ n, attempts.find? (fun n => !(m.atAttempt policy n).barred file.node mode) = some n →
    result.1 = .ok ⟨path, m.files.length, mode, true⟩ ∧
      ((m.atAttempt policy n).addFile { file with lock := some mode }).2.Spoken result.2
  refused : attempts.find? (fun n => !(m.atAttempt policy n).barred file.node mode) = none →
    result.1 = .error (.timeout policy.attempts) ∧ result.2.disk = m.disk

theorem Waits.past {n : Nat} {attempts : List Nat} {result : Except LockError FileLock × Machine}
    (hbarred : (m.atAttempt policy n).barred file.node mode = true)
    (h : Waits m file path mode policy attempts result) :
    Waits m file path mode policy (n :: attempts) result := by
  constructor
  · intro later hlater
    rw [List.find?_cons_of_neg (by simp [hbarred])] at hlater
    exact h.granted later hlater
  · intro hnone
    rw [List.find?_cons_of_neg (by simp [hbarred])] at hnone
    exact h.refused hnone

theorem Waits.now {n : Nat} {attempts : List Nat} {left : Nat} {warned : Bool}
    (hspoken : ((m.atAttempt policy n).addFile file).2.Spoken m')
    (hfree : (m.atAttempt policy n).barred file.node mode = false) :
    Waits m file path mode policy (n :: attempts)
      ((FileLock.attempt m.files.length path mode policy (left + 1) warned).run m') := by
  obtain ⟨hreply, hafter⟩ := hspoken.tryLock m.files.length mode
  have htry := Machine.tryLock_addFile (m.atAttempt policy n) file mode
  rw [Machine.length_atAttempt, if_neg (by simp [hfree])] at htry
  rw [htry] at hreply hafter
  obtain ⟨after, hrun, hspoken'⟩ := attempt_free path policy left warned hreply
  rw [hrun]
  constructor
  · intro first hfirst
    rw [List.find?_cons_of_pos (by simp [hfree])] at hfirst
    cases hfirst
    exact ⟨rfl, hafter.trans hspoken'⟩
  · intro hnone
    rw [List.find?_cons_of_pos (by simp [hfree])] at hnone
    cases hnone

/-- Where somebody's lock stands in the way, the next attempt follows, after a sleep unless this
was the last. -/
theorem attempt_later {n : Nat} (path : String) (left : Nat) (warned : Bool)
    (hspoken : ((m.atAttempt policy n).addFile file).2.Spoken m')
    (hbarred : (m.atAttempt policy n).barred file.node mode = true) :
    ∃ after, m'.Spoken after ∧
      (FileLock.attempt m.files.length path mode policy (left + 1) warned).run m' =
        (FileLock.attempt m.files.length path mode policy left true).run
          (if left = 0 then after
            else after.pass (policy.backoff (policy.attempts - (left + 1))).nanoseconds) := by
  have htry := Machine.tryLock_addFile (m.atAttempt policy n) file mode
  rw [Machine.length_atAttempt, if_pos hbarred] at htry
  obtain ⟨hreply, -⟩ := hspoken.tryLock m.files.length mode
  rw [htry] at hreply
  exact attempt_held (Machine.tryLock_held hreply)

/-- The attempts from one on. What stands in the way at each of them are the locks that others
had before the file was opened and have not given up meanwhile. -/
theorem attempt_waits (hcloses : m.ClosesOpened) (left : Nat) (hleft : left < policy.attempts)
    (warned : Bool)
    (hspoken : ((m.atAttempt policy (policy.attempts - (left + 1))).addFile file).2.Spoken m') :
    Waits m file path mode policy (List.range' (policy.attempts - (left + 1)) (left + 1))
      ((FileLock.attempt m.files.length path mode policy (left + 1) warned).run m') := by
  induction left generalizing warned m' with
  | zero =>
    cases hbarred : (m.atAttempt policy (policy.attempts - 1)).barred file.node mode with
    | false => exact Waits.now hspoken hbarred
    | true =>
      obtain ⟨after, hafter, hrun⟩ := attempt_later path 0 warned hspoken hbarred
      rw [hrun]
      refine Waits.past hbarred ⟨nofun, fun _ => ⟨rfl, ?_⟩⟩
      rw [if_pos rfl]
      show after.disk = m.disk
      rw [(hspoken.trans hafter).disk]
      exact Machine.disk_atAttempt m policy _
  | succ left ih =>
    have hnext : policy.attempts - (left + 1) = policy.attempts - (left + 1 + 1) + 1 := by omega
    rw [List.range'_succ, ← hnext]
    cases hbarred : (m.atAttempt policy (policy.attempts - (left + 1 + 1))).barred file.node
      mode with
    | false => exact Waits.now hspoken hbarred
    | true =>
      obtain ⟨after, hafter, hrun⟩ := attempt_later path (left + 1) warned hspoken hbarred
      rw [hrun, if_neg (Nat.succ_ne_zero left)]
      refine Waits.past hbarred (ih (by omega) true ?_)
      have hlater := (hspoken.trans hafter).pass
        (policy.backoff (policy.attempts - (left + 1 + 1))).nanoseconds
      rw [Machine.pass_addFile (hcloses.atAttempt policy _)] at hlater
      rw [hnext]
      exact hlater

/-- Locking a file that was just opened: the lock is granted at the attempt at which nobody else's
stands in the way, and refused if there is none. -/
theorem lockFile_waits (hcloses : m.ClosesOpened) (hspoken : (m.addFile file).2.Spoken m')
    (path : String) (mode : LockMode) (policy : RetryPolicy) :
    Waits m file path mode policy (List.range policy.attempts)
      ((FileLock.lockFile m.files.length path mode policy).run m') := by
  obtain ⟨left, hleft⟩ : ∃ left, policy.attempts = left + 1 :=
    Nat.exists_eq_add_of_le' (Nat.le_max_right policy.maxAttempts.toNat 1)
  have hfirst : policy.attempts - (left + 1) = 0 := by omega
  have hspoken₀ : ((m.atAttempt policy (policy.attempts - (left + 1))).addFile file).2.Spoken m' := by
    rw [hfirst]
    exact hspoken
  have hwaits : Waits m file path mode policy _ _ :=
    attempt_waits hcloses left (by omega) false hspoken₀
  rw [hfirst, ← hleft, ← List.range_eq_range'] at hwaits
  rw [FileLock.lockFile, Routine.run_bind]
  cases hresult : ((FileLock.attempt m.files.length path mode policy policy.attempts false).run m').1 with
  | ok lock =>
    rw [← Prod.mk.eta (p := (FileLock.attempt ..).run m'), hresult] at hwaits
    exact hwaits
  | error e =>
    refine ⟨fun n hn => ?_, fun hnone => ?_⟩
    · have hok := (hwaits.granted n hn).1
      rw [hresult] at hok
      cases hok
    · obtain ⟨herror, hdisk⟩ := hwaits.refused hnone
      exact ⟨by rw [← herror, hresult]; rfl, hdisk⟩

/-! ### Lock files -/

/-- The lock file at a path as it is opened, and the disk with it. One that may not be written is
opened for reading. -/
def Machine.openingLock (m : Machine) (path : String) : Except SysError (OpenFile × Disk) :=
  match m.opening path .append with
  | .ok (node, disk) => .ok ({ node, appends := true }, disk)
  | .error e =>
    if e.forbids then (m.existing path).map fun node => ({ node }, m.disk) else .error e

/-- Permission is never what a lock file cannot be opened for, unless opening it is refused. -/
theorem openFile_allowed {e : SysError} (hrefuses : m.refuses path .append = none)
    (h : (m.perform (.openFile path .append)).1 = .error e) : e.forbids = false := by
  simp only [Machine.perform, Machine.openFile, Machine.opening, hrefuses] at h
  cases hfile : m.disk.ensureFile path with
  | ok found =>
    rw [hfile] at h
    cases h
  | error e' =>
    rw [hfile] at h
    cases h
    exact Disk.ensureFile_allowed hfile

/-- So then it is opened for writing or not at all. -/
theorem openingLock_unrefused (h : m.refuses path .append = none) : m.openingLock path =
    (m.disk.ensureFile path).map fun made => ({ node := made.1, appends := true }, made.2) := by
  simp only [Machine.openingLock, Machine.opening, h]
  cases hfile : m.disk.ensureFile path with
  | ok found => rfl
  | error e => simp [Disk.ensureFile_allowed hfile, Except.map]

theorem openingLock_of_same (hrefuses : m'.refuses = m.refuses) (hdisk : m'.disk = m.disk)
    (path : String) : m'.openingLock path = m.openingLock path := by
  simp only [Machine.openingLock, Machine.opening, Machine.existing_of_same hrefuses hdisk, hrefuses,
    hdisk]

/-- A lock file that was opened was opened for writing, and made if it was missing; or writing it is
refused for want of permission, and it was there and may be read. -/
theorem openingLock_iff {disk : Disk} : m.openingLock path = .ok (file, disk) ↔
    (m.refuses path .append = none ∧ m.disk.ensureFile path = .ok (file.node, disk) ∧
        file = { node := file.node, appends := true }) ∨
      ∃ e, m.refuses path .append = some e ∧ e.forbids = true ∧
        m.existing path = .ok file.node ∧ file = { node := file.node } ∧ disk = m.disk := by
  cases hrefuses : m.refuses path .append with
  | none =>
    rw [openingLock_unrefused hrefuses]
    cases m.disk.ensureFile path with
    | error e => simp [Except.map]
    | ok made =>
      constructor
      · rintro ⟨⟩
        exact .inl ⟨rfl, rfl, rfl⟩
      · rintro (⟨-, ⟨⟩, hfile⟩ | ⟨e, ⟨⟩, -⟩)
        rw [hfile]
        rfl
  | some e =>
    have hopening : m.openingLock path =
        if e.forbids then (m.existing path).map fun node => ({ node }, m.disk) else .error e := by
      simp only [Machine.openingLock, Machine.opening, hrefuses]
    rw [hopening]
    cases hforbids : e.forbids with
    | false => simp [hforbids]
    | true =>
      cases m.existing path with
      | error e => simp [Except.map]
      | ok node =>
        constructor
        · rintro ⟨⟩
          exact .inr ⟨e, rfl, hforbids, rfl, rfl, rfl⟩
        · rintro (⟨⟨⟩, -⟩ | ⟨-, -, -, ⟨⟩, hfile, rfl⟩)
          rw [hfile]
          rfl

/-- It is not locked yet, and only that it was missing before can be seen on the disk. -/
theorem openingLock_eq_ok {disk : Disk} (h : m.openingLock path = .ok (file, disk)) :
    file.lock = none ∧ (m.disk.ensureFile path = .ok (file.node, disk) ∨
      m.disk.existing path false = .ok file.node ∧ disk = m.disk) := by
  rcases openingLock_iff.mp h with ⟨-, hensure, hfile⟩ | ⟨e, -, -, hexisting, hfile, hdisk⟩
  · exact ⟨by rw [hfile], .inl hensure⟩
  · exact ⟨by rw [hfile], .inr ⟨(Machine.existing_eq_ok.mp hexisting).2, hdisk⟩⟩

/-- Whether a disk is a machine's own, or that with the lock file at a path on it as it was opened
there. -/
def Machine.MadeLock (m : Machine) (path : String) (disk : Disk) : Prop :=
  disk = m.disk ∨ ∃ file, m.openingLock path = .ok (file, disk)

/-- Of opening a lock file only that it was missing before can be seen on the disk. -/
theorem Machine.MadeLock.ensured {disk : Disk} (h : m.MadeLock path disk) :
    m.disk.Ensured path disk := by
  rcases h with rfl | ⟨file, hopening⟩
  · exact .inl rfl
  · rcases (openingLock_eq_ok hopening).2 with hensure | ⟨-, rfl⟩
    · exact .inr ⟨_, hensure⟩
    · exact .inl rfl

theorem openLock_run (path : String) (m : Machine) : (FileLock.openLock path).run m =
    match m.openingLock path with
    | .error e => (.error e, m)
    | .ok (file, disk) => (.ok m.files.length, (({ m with disk } : Machine).addFile file).2) := by
  have happend := m.openFile_kept path .append (by decide)
  rw [FileLock.openLock, Routine.run_perform_bind, Machine.openingLock]
  cases hopening : m.opening path .append with
  | ok made =>
    rw [hopening] at happend
    rw [happend]
    rfl
  | error e =>
    rw [hopening] at happend
    rw [happend]
    cases hforbids : e.forbids with
    | false =>
      simp only [hforbids, Bool.false_eq_true, if_false]
      rfl
    | true =>
      simp only [hforbids, if_true]
      rw [show (Routine.perform (.openFile path .read)).run m = m.perform (.openFile path .read)
        from rfl, m.openFile_read path]
      cases m.existing path <;> rfl

/-- A lock on a file that is asked for at a path, made if it is missing. -/
theorem acquire_waits {disk : Disk} (hcloses : m.ClosesOpened)
    (hfile : m.openingLock path = .ok (file, disk)) :
    Waits { m with disk } file path mode policy (List.range policy.attempts)
      ((FileLock.acquire path mode policy).run m) := by
  rw [FileLock.acquire, Routine.run_bind, openLock_run, hfile]
  exact lockFile_waits (m := { m with disk }) hcloses (.refl _) path mode policy

theorem acquire_error {e : SysError} (hfile : m.openingLock path = .error e) :
    (FileLock.acquire path mode policy).run m = (.error (.io e), m) := by
  rw [FileLock.acquire, Routine.run_bind, openLock_run, hfile]
  rfl

end

end ScriptCache
