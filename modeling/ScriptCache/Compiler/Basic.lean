import ScriptCache.Compiler.Config
import ScriptCache.Dependency.Table
import ScriptCache.Event
import ScriptCache.Machine.Routine

/-! Compilers, as a driver sees them.

A compiler has a state of its own. It is configured before it compiles, and every call
may fail and may change the state; compiling is a routine, for a compiler may start a
program. The runtime modules that it links into every script
are inputs of every build. -/
namespace ScriptCache

/-- Why a script was not compiled. -/
inductive CompileError where
  | config (reason : String)
  | notConfigured
  | spawn (program : String) (source : SysError)
  /-- The compiler ended in failure, with a code unless it was killed. -/
  | failed (code : Option Int) (output : String)
  | emptyOutput
  deriving DecidableEq

namespace CompileError

def describeCode : Option Int → String
  | some code => s!"Some({code})"
  | none => "None"

def message : CompileError → String
  | config reason => s!"failed to configure compiler: {reason}"
  | notConfigured => "compiler used before being configured"
  | spawn program source => s!"failed to start compiler {program}: {source.message}"
  | failed code output => s!"compiler failed (exit code {describeCode code}): {output}"
  | emptyOutput => "compiler produced no output"

/-- The errors behind an error, outermost first. -/
def causes : CompileError → List String
  | spawn _ source => [source.message]
  | config _ | notConfigured | failed .. | emptyOutput => []

end CompileError

/-- A module linked into every script. -/
structure RuntimeModule where
  name : String
  bitcode : Bytes
  deriving DecidableEq

def RuntimeModule.digest (m : RuntimeModule) : Digest :=
  .ofBytes m.bitcode

/-- What a compiler is given. -/
structure Script where
  name : String
  /-- The bitcode without its header. -/
  bitcode : Bytes
  wrapper : Wrapper
  deriving DecidableEq

/-- What a call of a compiler comes to. -/
structure CompilerReply (σ α : Type) where
  result : Except CompileError α
  state : σ
  events : List Event := []

/-- A compiler with states in `σ`. -/
structure Compiler (σ : Type) where
  runtime : σ → List RuntimeModule
  configure : CompilerConfig → σ → CompilerReply σ Unit
  compile : Script → σ → Routine (CompilerReply σ Bytes)

/-- The same compiler, without the runtime modules that it links. -/
def Compiler.withoutRuntime {σ : Type} (c : Compiler σ) : Compiler σ :=
  { c with runtime := fun _ => [] }

/-- A reply about one of several kinds of state. -/
def CompilerReply.mapState {σ τ α : Type} (f : σ → τ) (r : CompilerReply σ α) :
    CompilerReply τ α :=
  { result := r.result, state := f r.state, events := r.events }

/-- A compiler that is of one kind or of another. -/
def Compiler.either {σ τ : Type} (a : Compiler σ) (b : Compiler τ) : Compiler (σ ⊕ τ) where
  runtime
    | .inl s => a.runtime s
    | .inr t => b.runtime t
  configure config
    | .inl s => (a.configure config s).mapState .inl
    | .inr t => (b.configure config t).mapState .inr
  compile script
    | .inl s => return (← a.compile script s).mapState .inl
    | .inr t => return (← b.compile script t).mapState .inr

end ScriptCache
