import ScriptCache.Compiler.Basic
import ScriptCache.Text.Utf8

/-! Compilers that are programs.

Each compilation starts the program anew. It is given its fixed arguments, then the
optimization level and, unless it is the default, the precision; it reads the bitcode and
writes the object. -/
namespace ScriptCache

structure External where
  program : String
  args : List String := []
  runtime : List RuntimeModule := []
  config : Option CompilerConfig := none
  deriving DecidableEq

namespace External

/-- How many bytes of input a program can leave unread without its being noticed. -/
def pipeSize : Nat := 65536

/-- The arguments of a compilation. -/
def commandLine (e : External) (c : CompilerConfig) : List String :=
  e.args ++ [s!"-O{c.level}"] ++
    if c.precision = .full then [] else [s!"-fprecision={c.precision.name}"]

def configuring (e : External) (c : CompilerConfig) : Event where
  level := .debug
  message := "configuring external compiler"
  fields := [.text "program" e.program, .text "opt_level" s!"{c.level}",
    .text "precision" c.precision.name]

def stoppedReading : Event where
  level := .debug
  message := "compiler stopped reading bitcode"
  fields := [.text "error" SysError.brokenPipe.message]

def hasFailed (resource : String) (code : Option Nat) : Event where
  level := .warn
  message := "external compiler failed"
  fields := [.text "resource" resource,
    .text "code" (CompileError.describeCode (code.map Int.ofNat))]

def finished (resource : String) (output : Bytes) : Event where
  level := .debug
  message := "external compile finished"
  fields := [.text "resource" resource, .nat "bytes" output.length, .elapsed]

/-- Takes a configuration over, if its level is one. -/
def configure (c : CompilerConfig) (e : External) : CompilerReply External Unit :=
  if Wrapper.maxLevel < c.level.toNat then
    { result := .error (.config s!"optimization level {c.level} exceeds -O{Wrapper.maxLevel}")
      state := e }
  else { result := .ok (), state := { e with config := some c }, events := [e.configuring c] }

/-- What the end of the program means. -/
def outcome (resource : String) (f : Finished) : Except CompileError Bytes × List Event :=
  if f.code ≠ some 0 then
    (.error (.failed (f.code.map Int.ofNat) (Text.trim (Utf8.decodeLossy f.errors))),
      [hasFailed resource f.code])
  else if f.output.isEmpty then (.error .emptyOutput, [])
  else (.ok f.output, [finished resource f.output])

/-- Starts the program on a script. -/
def compile (script : Script) (e : External) : Routine (CompilerReply External Bytes) := do
  match e.config with
  | none => return { result := .error .notConfigured, state := e }
  | some c =>
    match ← Routine.perform (.launch e.program (e.commandLine c) script.bitcode) with
    | .error source => return { result := .error (.spawn e.program source), state := e }
    | .ok f =>
      let (result, events) := outcome script.name f
      let stopped := if pipeSize < f.unread then [stoppedReading] else []
      return { result, state := e, events := stopped ++ events }

/-- The compiler that a program is. -/
def compiler : Compiler External where
  runtime e := e.runtime
  configure := configure
  compile := compile

end External

end ScriptCache
