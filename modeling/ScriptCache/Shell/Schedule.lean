import ScriptCache.Shell.Run

/-! Processes side by side.

A process runs until it stops. Of the stopped ones, the first that has what it waits for goes
on; if none has, time passes up to the next point of time that one waits for. A process that
was started goes on its way some time after. All is over when the first process has ended and
nobody is left who could write to its outputs. -/
namespace ScriptCache.Shell

def Ending.ofResult : Except Halt Nat → Ending
  | .ok n => .exited (n % 256)
  | .error (.killed signal) => .killed signal
  | .error h => .exited (h.status % 256)

/-- A process that has stopped, or has not started yet. -/
structure Stopped where
  scope : Scope
  wake : Wake
  next : State → Task

namespace Stopped

/-- Whether a process has a channel open. -/
def holds (p : Stopped) (channel : Nat) : Bool :=
  p.scope.descriptors.any (·.2 == channel) || p.scope.kept.contains channel

/-- Whether a signal for which it has a trap is on its way to a process. -/
def isCalled (p : Stopped) (w : World) : Bool :=
  w.signals.any fun sent =>
    sent.1 == p.scope.process && (p.scope.traps.lookup sent.2).any fun action => !action.isEmpty

/-- Whether there is what one of some processes waits for. -/
def isThere (w : World) (all : List Stopped) : Occasion → Bool
  | .ended pids => pids.any fun pid => (w.ended.lookup pid).isSome
  | .released channel => !all.any fun p => p.holds channel
  | .filled channel =>
    match w.channels[channel]? with
    | some (.outlet pipe) => pipe.size != 0 || !all.any fun p => p.holds (channel + 1)
    | _ => true
  | .drained channel room =>
    match w.channels[channel]? with
    | some (.outlet pipe) => pipe.size + room ≤ Pipe.capacity || !all.any fun p => p.holds channel
    | _ => true
  | .met channel forReading times =>
    match w.channels[channel]? with
    | some (.outlet pipe) => times < if forReading then pipe.writers else pipe.readers
    | _ => true

/-- Whether one of some processes can go on. -/
def isReady (p : Stopped) (w : World) (all : List Stopped) : Bool :=
  p.wake.time.any (· ≤ w.clock) || p.wake.occasion.any (isThere w all) ||
    (!w.signals.isEmpty && ((Act.fatal? ⟨p.scope, w⟩).isSome || (p.wake.heeds && p.isCalled w)))

/-- The first process that can go on, and the others before it, the last first, and after it. -/
def ready? (w : World) (all : List Stopped) :
    (before after : List Stopped) → Option (Stopped × List Stopped × List Stopped)
  | _, [] => none
  | before, p :: after =>
    if p.isReady w all then some (p, before, after) else ready? w all (p :: before) after

end Stopped

/-- How far a process comes: to its end or to a stop, with those that it started on the way. -/
def settle : Task → List Stopped → (Except Halt Nat ⊕ Stopped) × State × List Stopped
  | .ended r s, children => (.inl r, s, children)
  | .stop wake s next, children => (.inr { scope := s.scope, wake, next }, s, children)
  | .fork scope start s next, children =>
    let time := s.world.clock + Act.startTime
    let child : Stopped := { scope, wake := { time := some time }, next := start }
    let w := { s.world with
      alive := (scope.process, scope.group) :: s.world.alive
      elsewhere := scope.holdings ++ s.world.elsewhere
      due := some (s.world.due.elim time (min time)) }
    settle (next { s with world := w }) (children ++ [child])

/-- The world after a process has ended. The one that started it is told, if it has a trap for
that. -/
def World.without (w : World) (p : Scope) (ending : Ending) (others : List Stopped) : World :=
  let isHeard := others.any fun other =>
    other.scope.process == p.parent && (other.scope.traps.lookup 17).any fun action => !action.isEmpty
  { w with
    ended := (p.process, ending) :: w.ended
    alive := w.alive.filter (·.1 != p.process)
    signals := (w.signals.filter fun sent => sent.1 != p.process) ++ if isHeard then [(p.parent, 17)] else [] }

/-- How much a process may do before the others are looked at again. -/
def turn : Nat := 100

/-- The world as a process finds it that goes on. -/
def World.found (w : World) (scope : Scope) (others : List Stopped) : World :=
  let due := if others.any fun p => p.isReady w others then some w.clock
    else (others.filterMap (·.wake.time)).min?
  { w with
    stored := { w.stored with here := scope.folder }
    elsewhere := others.flatMap (·.scope.holdings)
    due
    credit := turn }

/-- Runs processes until the first one has ended and the outputs are closed; its ending, if it
came to it. -/
def runAll (first : Nat) : Nat → World → List Stopped → Option Ending × World
  | 0, w, _ => (w.ended.lookup first, w)
  | fuel + 1, w, stopped =>
    if !w.alive.any (·.1 == first) && !stopped.any (fun p => p.holds 1 || p.holds 2) then
      (w.ended.lookup first, w)
    else
      match Stopped.ready? w stopped [] stopped with
      | some (p, before, after) =>
        let others := before.reverse ++ after
        match settle (p.next ⟨p.scope, w.found p.scope others⟩) [] with
        | (.inr p, s, children) => runAll first fuel s.world (others ++ children ++ [p])
        | (.inl r, s, children) =>
          runAll first fuel (s.world.without s.scope (.ofResult r) others) (others ++ children)
      | none =>
        match (stopped.filterMap fun p => p.wake.time).min? with
        | some time => runAll first fuel { w with clock := time } stopped
        | none => (w.ended.lookup first, w)

end ScriptCache.Shell
