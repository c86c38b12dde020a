import ScriptCache.Config.Settings
import ScriptCache.Event

/-! Settings from the environment, laid over others.

One variable forces recompilation; the other sets the precision and forces recompilation
too, since what is in the cache may have been compiled with another precision. -/
namespace ScriptCache

/-- What the environment says: the value of a variable that is set. -/
abbrev Environment := String → Option String

/-- What laying an environment over settings comes to. Settings that were changed before
an error stay changed. -/
structure Overlay where
  settings : Settings
  result : Except ConfigError Unit := .ok ()
  events : List Event := []

namespace Environment

def forceName : String := "RSC_FORCE_RECOMPILE"
def precisionName : String := "RSC_PRECISION"

def forced : Event where
  level := .debug
  message := s!"{forceName} set, cache lookups bypassed"

def precisionSet (p : Precision) : Event where
  level := .debug
  message := s!"{precisionName} override, cache lookups bypassed"
  fields := [.text "precision" p.name]

/-- Whether the environment forces recompilation. -/
def forces (env : Environment) : Bool :=
  match env forceName with
  | some value => Text.trim value = "1" || Text.trim value = "true"
  | none => false

/-- Forces recompilation if the environment says so. -/
def applyForce (env : Environment) (s : Settings) : Overlay :=
  if env.forces then { settings := { s with cache.forceRecompile := true }, events := [forced] }
  else { settings := s }

/-- Lays the environment over settings. -/
def apply (env : Environment) (s : Settings) : Overlay :=
  let o := env.applyForce s
  match env precisionName with
  | none => o
  | some value =>
    if value.isEmpty then o
    else
      match Precision.parse? value with
      | none => { o with result := .error (.invalidValue precisionName value) }
      | some p =>
        { settings :=
            { o.settings with
              cache.forceRecompile := true
              compiler.precision := some p }
          events := o.events ++ [precisionSet p] }

/-- The default settings under an environment. -/
def settings (env : Environment) : Except ConfigError Settings × List Event :=
  let o := env.apply {}
  (o.result.map fun () => o.settings, o.events)

end Environment

end ScriptCache
