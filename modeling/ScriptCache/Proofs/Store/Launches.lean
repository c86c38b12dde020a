import Mathlib
import ScriptCache.Proofs.Store.Filling

/-! The programs that a run starts.

A run tells which programs it started, with which arguments and which input (`Routine.launches`). A
routine that never starts one, whatever it is answered, is *launchless*, and so is what the store
does: looking an artifact up and putting one there (`launchless_lookup`, `launchless_insert`). -/
namespace ScriptCache

/-! ### Launches -/

def Action.isLaunch : Action → Bool
  | launch .. => true
  | _ => false

namespace Routine

variable {α β : Type}

/-- The launches among the actions of a run, the first one first. -/
def launches : Routine α → Machine → List Action
  | done _, _ => []
  | act action next, m =>
    (if action.isLaunch then [action] else []) ++
      (next (m.perform action).1).launches (m.perform action).2

/-- A sequence starts what its parts start. -/
@[simp] theorem launches_bind (routine : Routine α) (f : α → Routine β) (m : Machine) :
    (routine >>= f).launches m =
      routine.launches m ++ (f (routine.run m).1).launches (routine.run m).2 := by
  show (routine.bind f).launches m = _
  induction routine generalizing m with
  | done a => rfl
  | act action next ih =>
    rw [launches, List.append_assoc]
    exact congrArg _ (ih _ _)

/-- Whether a routine starts no program, whatever it is answered. -/
def Launchless : Routine α → Prop
  | done _ => True
  | act action next => action.isLaunch = false ∧ ∀ reply, (next reply).Launchless

theorem Launchless.launches {routine : Routine α} (h : routine.Launchless) (m : Machine) :
    routine.launches m = [] := by
  induction routine generalizing m with
  | done a => rfl
  | act action next ih =>
    rw [Routine.launches, h.1, ih _ (h.2 _)]
    rfl

theorem Launchless.bind {routine : Routine α} {f : α → Routine β} (h : routine.Launchless)
    (hf : ∀ a, (f a).Launchless) : (routine >>= f).Launchless := by
  show (routine.bind f).Launchless
  induction routine with
  | done a => exact hf a
  | act action next ih => exact ⟨h.1, fun reply => ih reply (h.2 reply)⟩

theorem launchless_perform {action : Action} (h : action.isLaunch = false) :
    (perform action).Launchless :=
  ⟨h, fun _ => trivial⟩

/-- What leaves the slots as they are starts nothing. -/
theorem Harmless.launchless {path : String} {routine : Routine α} (h : routine.Harmless path) :
    routine.Launchless := by
  induction routine with
  | done a => trivial
  | act action next ih =>
    refine ⟨?_, fun reply => ih reply (h.2 reply)⟩
    cases action with
    | launch => exact h.1.elim
    | _ => rfl

theorem launchless_say (event : Event) : (say event).Launchless :=
  launchless_perform rfl

theorem launchless_sayAll (events : List Event) : (sayAll events).Launchless := by
  have hharmless : (sayAll events).Harmless "" := harmless_of_still (still_sayAll events)
  exact hharmless.launchless

end Routine

open Routine

/-! ### What the store does -/

section

variable {slot : Slot}

theorem launchless_lockFile (handle : Handle) (path : String) (mode : LockMode)
    (policy : RetryPolicy) : (FileLock.lockFile handle path mode policy).Launchless := by
  have hharmless : (FileLock.lockFile handle path mode policy).Harmless path :=
    harmless_lockFile handle path mode policy
  exact hharmless.launchless

theorem launchless_acquire (path : String) (mode : LockMode) (policy : RetryPolicy) :
    (FileLock.acquire path mode policy).Launchless := by
  have hharmless : (FileLock.acquire path mode policy).Harmless path :=
    harmless_acquire path mode policy
  exact hharmless.launchless

theorem launchless_during {α : Type} (lock : FileLock) {work : Routine α} (h : work.Launchless) :
    (lock.during work).Launchless := by
  have hdrop : lock.drop.Harmless lock.path := harmless_drop lock
  exact h.bind fun _ => hdrop.launchless.bind fun _ => trivial

theorem launchless_write (path : String) (content : Bytes) :
    (Files.write path content).Launchless := by
  have hopen : (perform (.openFile path .replace)).Launchless := launchless_perform rfl
  refine hopen.bind fun reply => ?_
  cases reply with
  | error e => trivial
  | ok handle =>
    have hwrite : (perform (.write handle content)).Launchless := launchless_perform rfl
    have hclose : (perform (.closeFile handle)).Launchless := launchless_perform rfl
    exact hwrite.bind fun _ => hclose.bind fun _ => trivial

variable [Wire.Memory]

theorem launchless_lookup (store : Store) (dependencies : DependencyTable) (signature : Bytes) :
    (store.lookup slot dependencies signature).Launchless := by
  have hharmless : (store.lookup slot dependencies signature).Harmless slot.folder :=
    harmless_lookup store
  exact hharmless.launchless

theorem launchless_replaceSlot (handle : Handle) (artifact : Bytes) (metadata : Metadata) :
    (Store.replaceSlot slot handle artifact metadata).Launchless := by
  have hremove : (Store.removeInfo slot.info).Launchless := by
    have hunlink : (perform (.unlink slot.info)).Launchless := launchless_perform rfl
    refine hunlink.bind fun reply => ?_
    split <;> trivial
  have hrefill : (Store.refill handle artifact).Launchless := by
    have hempty : (perform (.setLength handle 0)).Launchless := launchless_perform rfl
    refine hempty.bind fun reply => ?_
    have hwrite : (perform (.write handle artifact)).Launchless := launchless_perform rfl
    cases reply with
    | error e => trivial
    | ok u =>
      refine hwrite.bind fun reply => ?_
      cases reply with
      | error e => trivial
      | ok u => exact launchless_perform rfl
  refine hremove.bind fun removed => ?_
  cases removed with
  | error e => trivial
  | ok u =>
    refine hrefill.bind fun refilled => ?_
    cases refilled with
    | error e => trivial
    | ok u =>
      refine (launchless_write slot.info metadata.encode).bind fun saved => ?_
      cases saved with
      | error e => trivial
      | ok u => exact (launchless_say _).bind fun _ => trivial

theorem launchless_insertLocked (policy : RetryPolicy) (artifact : Bytes) (metadata : Metadata) :
    (Store.insertLocked policy slot artifact metadata).Launchless := by
  have hopen : (perform (.openFile slot.artifact .write)).Launchless := launchless_perform rfl
  refine hopen.bind fun reply => ?_
  cases reply with
  | error e => trivial
  | ok handle =>
    refine (launchless_lockFile handle slot.artifact .exclusive policy).bind fun result => ?_
    cases result with
    | error e => trivial
    | ok lock => exact launchless_during lock (launchless_replaceSlot lock.handle artifact metadata)

theorem launchless_insert (store : Store) (artifact : Bytes) (metadata : Metadata) :
    (store.insert slot artifact metadata).Launchless := by
  have hfolders : (Files.makeFolders slot.folder).Launchless :=
    (harmless_makeFolderChain fun _ hmem => hmem).launchless
  refine hfolders.bind fun made => ?_
  cases made with
  | error e => trivial
  | ok u =>
    refine (launchless_acquire slot.lock .exclusive store.policy).bind fun result => ?_
    cases result with
    | error e => trivial
    | ok lock =>
      exact launchless_during lock (launchless_insertLocked store.policy artifact metadata)

end

end ScriptCache
