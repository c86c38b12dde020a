import Mathlib
import ScriptCache.Proofs.Machine.Keeping
import ScriptCache.Slot.Store

/-! Insertions and lookups close what they open.

Both take locks on files that they opened themselves, and whatever they are answered, drop them
before they end (`keeps_insert`, `keeps_lookup`). -/
namespace ScriptCache

open Routine

/-! ### Locks -/

section

variable {own : List Handle} {α : Type}

/-- What is open after a lock was asked for: the file that is locked, or nothing more. -/
def Taken (own : List Handle) : Except LockError FileLock → List Handle → Prop
  | .ok lock, after => after = lock.handle :: own
  | .error _, after => after = own

/-- What is open after some attempts to lock an open file: that file, locked or not. -/
def Attempted (handle : Handle) (own : List Handle) : Except LockError FileLock → List Handle → Prop
  | .ok lock, after => lock.handle = handle ∧ after = handle :: own
  | .error _, after => after = handle :: own

theorem uses_attempt (handle : Handle) (path : String) (mode : LockMode) (policy : RetryPolicy)
    (left : Nat) (warned : Bool) :
    (FileLock.attempt handle path mode policy left warned).Uses (Attempted handle own)
      (handle :: own) := by
  induction left generalizing warned with
  | zero => exact rfl
  | succ left ih =>
    have hask : (perform (.tryLock handle mode)).Keeps (handle :: own) :=
      keeps_first rfl fun _ => rfl
    refine hask.bind fun reply => ?_
    cases reply with
    | failed e => exact rfl
    | granted =>
      have hdone : (pure (.ok ⟨path, handle, mode, true⟩) : Routine _).Uses (Attempted handle own)
          (handle :: own) := ⟨rfl, rfl⟩
      cases warned with
      | false => exact hdone
      | true => exact (keeps_say _).bind fun _ => hdone
    | held =>
      have hrest : (do
          if left ≠ 0 then perform (.sleep (policy.backoff (policy.attempts - (left + 1))))
          FileLock.attempt handle path mode policy left true).Uses (Attempted handle own)
          (handle :: own) := by
        by_cases hleft : left ≠ 0
        · rw [if_pos hleft]
          exact Keeps.bind (keeps_perform nofun fun _ => rfl) fun _ => ih true
        · rw [if_neg hleft]
          exact ih true
      cases warned with
      | true => exact hrest
      | false => exact (keeps_say _).bind fun _ => hrest

theorem uses_lockFile (handle : Handle) (path : String) (mode : LockMode) (policy : RetryPolicy) :
    (FileLock.lockFile handle path mode policy).Uses (Taken own) (handle :: own) := by
  refine (uses_attempt handle path mode policy policy.attempts false).bind fun {result after} h => ?_
  cases result with
  | ok lock =>
    obtain ⟨rfl, rfl⟩ := h
    exact rfl
  | error e =>
    obtain rfl : after = handle :: own := h
    exact (uses_close handle).bind fun hafter => hafter

theorem uses_openLock (path : String) : (FileLock.openLock path).Uses
    (fun reply after => after = Action.openAfter own (.openFile path .append) reply) own := by
  refine (uses_open path .append).bind fun {reply after} hafter => ?_
  subst hafter
  cases reply with
  | ok handle => exact rfl
  | error e =>
    show (if e.forbids then perform (.openFile path .read) else pure (.error e)).Uses _ own
    split
    · exact ⟨nofun, fun reply => by cases reply <;> rfl⟩
    · exact rfl

theorem uses_acquire (path : String) (mode : LockMode) (policy : RetryPolicy) :
    (FileLock.acquire path mode policy).Uses (Taken own) own := by
  refine (uses_openLock path).bind fun {reply after} hafter => ?_
  subst hafter
  cases reply with
  | error e => exact rfl
  | ok handle => exact uses_lockFile handle path mode policy

theorem uses_drop (lock : FileLock) :
    lock.drop.Uses (fun _ after => after = own) (lock.handle :: own) := by
  have hrelease : lock.release.Uses (fun released after =>
      released.handle = lock.handle ∧ after = lock.handle :: own) (lock.handle :: own) := by
    have hunlock : (perform (.unlock lock.handle)).Keeps (lock.handle :: own) :=
      keeps_first rfl fun _ => rfl
    rw [FileLock.release]
    split
    · exact hunlock.bind fun _ => ⟨rfl, rfl⟩
    · exact ⟨rfl, rfl⟩
  refine hrelease.bind fun {released after} h => ?_
  obtain ⟨hhandle, rfl⟩ := h
  rw [hhandle]
  exact uses_close lock.handle

/-- Work under a lock ends with the lock dropped. -/
theorem uses_during {lock : FileLock} {work : Routine α} (h : work.Keeps (lock.handle :: own)) :
    (lock.during work).Uses (fun _ after => after = own) (lock.handle :: own) :=
  h.bind fun _ => (uses_drop lock).bind fun hafter => hafter

end

/-! ### Lookups -/

section

variable [Wire.Memory] {own : List Handle} {slot : Slot} {dependencies : DependencyTable}
  {signature : Bytes}

theorem keeps_inspect (path : String) :
    (Metadata.inspect path dependencies signature).Keeps own := by
  have hread : (Files.read path).Keeps own := keeps_opened fun handle =>
    keeps_first rfl fun _ => rfl
  refine hread.bind fun result => ?_
  cases result with
  | error e => cases e <;> exact rfl
  | ok raw =>
    dsimp only
    cases Metadata.decode raw with
    | ok m => exact rfl
    | error flaw =>
      show Uses _ (if flaw.breaksOff then _ else _) own
      split
      · exact rfl
      · exact (keeps_say _).bind fun _ => rfl

theorem keeps_readSlot (handle : Handle) :
    (Store.readSlot slot handle dependencies signature).Keeps (handle :: own) := by
  refine (keeps_inspect slot.info).bind fun outcome => ?_
  cases outcome with
  | valid metadata =>
    have hread : (perform (.readRest handle)).Keeps (handle :: own) :=
      keeps_first rfl fun _ => rfl
    refine hread.bind fun reply => ?_
    cases reply with
    | error e => exact (keeps_say _).bind fun _ => rfl
    | ok bytes => exact rfl
  | _ => exact rfl

theorem keeps_lookupLocked (policy : RetryPolicy) :
    (Store.lookupLocked policy slot dependencies signature).Keeps own := by
  refine (uses_open slot.artifact .read).bind fun {reply after} hafter => ?_
  subst hafter
  cases reply with
  | error e =>
    cases e with
    | notFound => exact rfl
    | _ => exact (keeps_say _).bind fun _ => rfl
  | ok handle =>
    refine (uses_lockFile handle slot.artifact .shared policy).bind fun {result after} h => ?_
    cases result with
    | error e =>
      obtain rfl : after = own := h
      exact (keeps_say _).bind fun _ => rfl
    | ok lock =>
      obtain rfl : after = lock.handle :: own := h
      exact uses_during (keeps_readSlot lock.handle)

theorem keeps_lookup (store : Store) : (store.lookup slot dependencies signature).Keeps own := by
  have hsearch : (store.search slot dependencies signature).Keeps own := by
    rw [Store.search]
    split
    · exact rfl
    · refine Keeps.bind (keeps_perform nofun fun _ => rfl) fun found => ?_
      cases found with
      | false => exact rfl
      | true =>
        refine (uses_acquire slot.lock .shared store.policy).bind fun {result after} h => ?_
        cases result with
        | error e =>
          obtain rfl : after = own := h
          exact (keeps_say _).bind fun _ => rfl
        | ok lock =>
          obtain rfl : after = lock.handle :: own := h
          exact uses_during (keeps_lookupLocked store.policy)
  exact hsearch.bind fun outcome => (keeps_sayAll _).bind fun _ => rfl

end

/-! ### Insertions -/

section

variable {own : List Handle} {slot : Slot} {artifact : Bytes} {metadata : Metadata}

theorem keeps_makeFolders (path : String) : (Files.makeFolders path).Keeps own := by
  have hmake (path : String) : (perform (.makeFolder path)).Keeps own :=
    keeps_perform nofun fun _ => rfl
  have hfolder (path : String) (e : SysError) : (Files.folderOr path e).Keeps own := by
    refine Keeps.bind (keeps_perform nofun fun _ => rfl) fun found => ?_
    cases found <;> exact rfl
  rw [Files.makeFolders]
  induction Path.ancestors path with
  | nil => exact rfl
  | cons path above ih =>
    refine (hmake path).bind fun reply => ?_
    cases reply with
    | ok u => exact rfl
    | error e =>
      cases e with
      | notFound =>
        refine ih.bind fun result => ?_
        cases result with
        | error e => exact rfl
        | ok u =>
          refine (hmake path).bind fun reply => ?_
          cases reply with
          | ok u => exact rfl
          | error e => exact hfolder path e
      | _ => exact hfolder path _

variable [Wire.Memory]

theorem keeps_replaceSlot (handle : Handle) :
    (Store.replaceSlot slot handle artifact metadata).Keeps (handle :: own) := by
  have hremove : (Store.removeInfo slot.info).Keeps (handle :: own) := by
    refine Keeps.bind (keeps_perform nofun fun _ => rfl) fun reply => ?_
    cases reply with
    | ok u => exact rfl
    | error e => cases e <;> exact rfl
  have hwrite (other : Handle) (rest : List Handle) (bytes : Bytes) :
      (perform (.write other bytes)).Keeps (other :: rest) :=
    keeps_first rfl fun _ => rfl
  have hrefill : (Store.refill handle artifact).Keeps (handle :: own) := by
    have hempty : (perform (.setLength handle 0)).Keeps (handle :: own) :=
      keeps_first rfl fun _ => rfl
    refine hempty.bind fun reply => ?_
    cases reply with
    | error e => exact rfl
    | ok u =>
      refine (hwrite handle own artifact).bind fun reply => ?_
      cases reply with
      | error e => exact rfl
      | ok u => exact keeps_first rfl fun _ => rfl
  have hsave : (metadata.save slot.info).Keeps (handle :: own) :=
    keeps_opened fun other => hwrite other (handle :: own) metadata.encode
  refine hremove.bind fun removed => ?_
  cases removed with
  | error e => exact rfl
  | ok u =>
    refine hrefill.bind fun refilled => ?_
    cases refilled with
    | error e => exact rfl
    | ok u =>
      refine hsave.bind fun saved => ?_
      cases saved with
      | error e => exact rfl
      | ok u => exact (keeps_say _).bind fun _ => rfl

theorem keeps_insertLocked (policy : RetryPolicy) :
    (Store.insertLocked policy slot artifact metadata).Keeps own := by
  refine (uses_open slot.artifact .write).bind fun {reply after} hafter => ?_
  subst hafter
  cases reply with
  | error e => exact rfl
  | ok handle =>
    refine (uses_lockFile handle slot.artifact .exclusive policy).bind fun {result after} h => ?_
    cases result with
    | error e => exact h
    | ok lock =>
      obtain rfl : after = lock.handle :: own := h
      exact uses_during (keeps_replaceSlot lock.handle)

theorem keeps_insert (store : Store) : (store.insert slot artifact metadata).Keeps own := by
  refine (keeps_makeFolders slot.folder).bind fun made => ?_
  cases made with
  | error e => exact rfl
  | ok u =>
    refine (uses_acquire slot.lock .exclusive store.policy).bind fun {result after} h => ?_
    cases result with
    | error e => exact h
    | ok lock =>
      obtain rfl : after = lock.handle :: own := h
      exact uses_during (keeps_insertLocked store.policy)

end

end ScriptCache
