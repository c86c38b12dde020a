import ScriptCache.Config.Precision
import ScriptCache.Lock.RetryPolicy

/-! The settings of a driver, and when they go together. -/
namespace ScriptCache

structure CacheSettings where
  /-- Passes the cache by and compiles every time. -/
  forceRecompile : Bool := false
  deriving DecidableEq

/-- How often a lock is asked for, and how long the sleeps between are, in
milliseconds. -/
structure LockSettings where
  maxAttempts : UInt32 := 8
  initialBackoff : UInt64 := 5
  maxBackoff : UInt64 := 200
  deriving DecidableEq

/-- What a driver sets in place of what a script asks for. -/
structure CompilerSettings where
  optimizationLevel : Option UInt8 := none
  precision : Option Precision := none
  deriving DecidableEq

structure Settings where
  cache : CacheSettings := {}
  lock : LockSettings := {}
  compiler : CompilerSettings := {}
  deriving DecidableEq

namespace LockSettings

def initialSpan (s : LockSettings) : Duration := .ofMilliseconds s.initialBackoff
def maxSpan (s : LockSettings) : Duration := .ofMilliseconds s.maxBackoff

/-- The retries that the settings ask for. -/
def policy (s : LockSettings) : RetryPolicy :=
  ⟨s.maxAttempts, s.initialSpan, s.maxSpan⟩

end LockSettings

namespace Settings

/-- The highest optimization level. -/
def maxLevel : UInt8 := 3

/-- Refuses settings that do not go together; the first fault counts. -/
def validate (s : Settings) : Except ConfigError Unit :=
  if s.lock.maxAttempts = 0 then .error (.validation "lock.max_attempts must be at least 1")
  else if s.lock.maxBackoff < s.lock.initialBackoff then
    .error (.validation
      s!"lock.initial_backoff_ms ({s.lock.initialBackoff}) exceeds lock.max_backoff_ms ({s.lock.maxBackoff})")
  else
    match s.compiler.optimizationLevel with
    | none => .ok ()
    | some level =>
      if maxLevel < level then
        .error (.validation s!"compiler.optimization_level must be 0-{maxLevel}, got {level}")
      else .ok ()

end Settings

end ScriptCache
