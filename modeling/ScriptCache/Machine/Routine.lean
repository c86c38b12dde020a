import ScriptCache.Machine.Basic

/-! Routines: what a party does to the machine, one action at a time.

A routine is done, or it takes an action and goes on with the reply. That a routine is made
of single actions is what its cutting short and its interleaving with others are said
about; `run` takes all of them in a row, and runs a sequence one part after the other
(`run_bind`). -/
namespace ScriptCache

/-- What can be done to the machine at once. -/
inductive Action where
  | say (event : Event)
  | fileExists (path : String)
  | folderExists (path : String)
  | makeFolder (path : String)
  | makeLink (path target : String)
  | openFile (path : String) (mode : OpenMode)
  | closeFile (handle : Handle)
  | tryLock (handle : Handle) (mode : LockMode)
  | unlock (handle : Handle)
  | readRest (handle : Handle)
  | isRegular (handle : Handle)
  | setLength (handle : Handle) (length : Nat)
  | write (handle : Handle) (bytes : Bytes)
  | sync (handle : Handle)
  | unlink (path : String)
  | copyMode (source target : Handle)
  | launch (program : String) (args : List String) (input : Bytes)
  | sleep (span : Duration)
  deriving DecidableEq

/-- What an action answers. -/
abbrev Action.Reply : Action → Type
  | say _ | closeFile _ | unlock _ | copyMode .. | sleep _ => Unit
  | fileExists _ | folderExists _ | isRegular _ => Bool
  | makeFolder _ | makeLink .. | setLength .. | write .. | sync _ | unlink _ => Except SysError Unit
  | openFile .. => Except SysError Handle
  | tryLock .. => LockReply
  | readRest _ => Except SysError Bytes
  | launch .. => Except SysError Finished

/-- One action, with its reply. -/
def Machine.perform (m : Machine) : (action : Action) → action.Reply × Machine
  | .say event => ((), { m with said := event :: m.said })
  | .fileExists path => (m.disk.exists? path, m)
  | .folderExists path => (m.disk.isFolder path, m)
  | .makeFolder path => m.changeDisk (m.disk.makeFolder path)
  | .makeLink path target => m.changeDisk (m.disk.makeLink path target)
  | .openFile path mode => m.openFile path mode
  | .closeFile handle => ((), m.close handle)
  | .tryLock handle mode => m.tryLock handle mode
  | .unlock handle => ((), m.unlock handle)
  | .readRest handle => m.readRest handle
  | .isRegular handle => (m.isRegular handle, m)
  | .setLength handle length => m.setLength handle length
  | .write handle bytes => m.write handle bytes
  | .sync handle => (m.sync handle, m)
  | .unlink path => m.changeDisk (m.disk.unlink path)
  | .copyMode source target => ((), m.copyMode source target)
  | .launch program args input => m.launch program args input
  | .sleep span => ((), m.pass span.nanoseconds)

/-- What a party does, up to a result. -/
inductive Routine (α : Type) where
  | done (result : α)
  | act (action : Action) (next : action.Reply → Routine α)

namespace Routine

variable {α β : Type}

/-- One routine and then, with its result, another. -/
def bind : Routine α → (α → Routine β) → Routine β
  | done a, f => f a
  | act action next, f => act action fun reply => (next reply).bind f

instance : Monad Routine where
  pure := done
  bind := bind

/-- A single action. -/
def perform (action : Action) : Routine action.Reply :=
  act action done

def say (event : Event) : Routine Unit :=
  perform (.say event)

def sayAll : List Event → Routine Unit
  | [] => done ()
  | event :: rest => (say event).bind fun () => sayAll rest

/-- Every action in a row. -/
def run : Routine α → Machine → α × Machine
  | done a, m => (a, m)
  | act action next, m => (next (m.perform action).1).run (m.perform action).2

@[simp] theorem run_pure (a : α) (m : Machine) : (pure a : Routine α).run m = (a, m) := rfl

@[simp] theorem run_perform (action : Action) (m : Machine) :
    (perform action).run m = m.perform action := rfl

/-- A sequence runs one part after the other. -/
@[simp] theorem run_bind (routine : Routine α) (f : α → Routine β) (m : Machine) :
    (routine >>= f).run m = (f (routine.run m).1).run (routine.run m).2 := by
  show (routine.bind f).run m = _
  induction routine generalizing m with
  | done a => rfl
  | act action next ih => exact ih _ _

end Routine

end ScriptCache
