import ScriptCache.Lock.RetryPolicy
import ScriptCache.Machine.Files

/-! File locks with bounded retries.

A lock is asked for without waiting, again and again as a policy says; when every
attempt finds it held by others, the caller is told so. A lock that was obtained is
held until it is released or dropped, and both may be done to a lock that is no longer
held. -/
namespace ScriptCache

/-- Why a lock was not obtained. -/
inductive LockError where
  /-- It was held by others at every attempt. -/
  | timeout (attempts : Nat)
  | io (source : SysError)
  deriving DecidableEq

def LockError.message : LockError → String
  | timeout attempts => s!"lock still held after {attempts} attempts"
  | io source => s!"I/O error: {source.message}"

/-- The errors behind an error, outermost first. -/
def LockError.causes : LockError → List String
  | timeout _ => []
  | io source => [source.message]

/-- A lock on an open file. -/
structure FileLock where
  path : String
  handle : Handle
  mode : LockMode
  held : Bool
  deriving DecidableEq

namespace FileLock

def contended (path : String) (mode : LockMode) : Event where
  level := .warn
  message := "lock contention, retrying"
  fields := [.text "path" path, .text "mode" mode.label]

def acquiredLate (path : String) : Event where
  level := .debug
  message := "lock acquired after contention"
  fields := [.text "path" path, .elapsed]

/-- Makes the last `left` of a policy's attempts. The first contention is said, and so
is success after one. -/
def attempt (handle : Handle) (path : String) (mode : LockMode) (policy : RetryPolicy) :
    Nat → Bool → Routine (Except LockError FileLock)
  | 0, _ => return .error (.timeout policy.attempts)
  | left + 1, warned => do
    match ← Routine.perform (.tryLock handle mode) with
    | .granted =>
      if warned then Routine.say (acquiredLate path)
      return .ok { path, handle, mode, held := true }
    | .failed e => return .error (.io e)
    | .held =>
      unless warned do Routine.say (contended path mode)
      if left ≠ 0 then Routine.perform (.sleep (policy.backoff (policy.attempts - (left + 1))))
      attempt handle path mode policy left true

/-- Locks an open file. It is closed if that fails. -/
def lockFile (handle : Handle) (path : String) (mode : LockMode) (policy : RetryPolicy) :
    Routine (Except LockError FileLock) := do
  match ← attempt handle path mode policy policy.attempts false with
  | .ok lock => return .ok lock
  | .error e =>
    Routine.perform (.closeFile handle)
    return .error e

/-- Opens the lock file at a path, made empty if missing. One that may not be written is
opened for reading, which is all that a lock needs. -/
def openLock (path : String) : Routine (Except SysError Handle) := do
  match ← Routine.perform (.openFile path .append) with
  | .ok handle => return .ok handle
  | .error e => if e.forbids then Routine.perform (.openFile path .read) else return .error e

/-- Opens the lock file at a path and locks it. -/
def acquire (path : String) (mode : LockMode) (policy : RetryPolicy) :
    Routine (Except LockError FileLock) := do
  match ← openLock path with
  | .error e => return .error (.io e)
  | .ok handle => lockFile handle path mode policy

/-- Gives the lock up, if it is held, and keeps the file open. -/
def release (lock : FileLock) : Routine FileLock := do
  if lock.held then Routine.perform (.unlock lock.handle)
  return { lock with held := false }

/-- Gives the lock up, if it is held, and closes the file. -/
def drop (lock : FileLock) : Routine Unit := do
  let lock ← lock.release
  Routine.perform (.closeFile lock.handle)

/-- Works under a lock and drops it. -/
def during {α : Type} (lock : FileLock) (work : Routine α) : Routine α := do
  let result ← work
  lock.drop
  return result

end FileLock

end ScriptCache
