import ScriptCache.Compiler.Basic
import ScriptCache.Object.Executable
import ScriptCache.Slot.Store

/-! Building scripts: from the cache where possible, by the compiler otherwise.

A request is checked before anything is touched. Its inputs and settings are then looked
up in the cache; a hit that loads is the answer. Otherwise the compiler is configured, if
its last configuration was another one or failed, and compiles the script; its object is
put into the cache, and loaded whether or not that succeeded. Trouble with the cache is
said and does not fail a build; only a lookup that breaks off breaks the build off. -/
namespace ScriptCache

/-- What a build is asked for. -/
structure BuildRequest where
  /-- The cache folder. -/
  folder : String
  name : String
  /-- The bitcode, with its header if it has one. -/
  bitcode : Bytes
  deriving DecidableEq

/-- Why a request is refused. -/
inductive RequestFlaw where
  | emptyFolder
  | noBitcode (name : String)
  | badName (name : String) (flaw : NameFlaw)
  | badWrapper (flaw : WrapperFlaw)
  deriving DecidableEq

def RequestFlaw.message : RequestFlaw → String
  | emptyFolder => "empty cache directory"
  | noBitcode name => s!"no bitcode supplied for '{name}'"
  | badName name flaw => (CacheError.invalidName name flaw.reason).message
  | badWrapper flaw => flaw.message

inductive BuildError where
  | invalidInput (reason : String)
  | compile (resource : String) (source : CompileError)
  | load (path : String) (source : LoadError)
  /-- Looking the script up broke off. -/
  | brokenOff
  deriving DecidableEq

namespace BuildError

def message : BuildError → String
  | invalidInput reason => s!"invalid build input: {reason}"
  | compile resource source => s!"failed to compile '{resource}': {source.message}"
  | load path source => s!"failed to load {path}: {source.message}"
  | brokenOff => "build broken off"

/-- The errors behind an error, outermost first. -/
def causes : BuildError → List String
  | invalidInput _ | brokenOff => []
  | compile _ source => source.message :: source.causes
  | load _ source => source.message :: source.causes

end BuildError

inductive BuildOrigin where
  | cacheHit
  | compiled
  deriving DecidableEq

def BuildOrigin.label : BuildOrigin → String
  | cacheHit => "CacheHit"
  | compiled => "Compiled"

/-- The result of a build. -/
structure Built where
  executable : Executable
  origin : BuildOrigin
  /-- Whether the object is in the cache. -/
  persisted : Bool
  deriving DecidableEq

/-- A driver, with the state of its compiler. -/
structure Driver (σ : Type) where
  settings : Settings
  store : Store
  runtimeResolvers : ResolverChain := {}
  fallbackResolvers : ResolverChain := {}
  /-- The configuration that the compiler took over last, unless it refused one since. -/
  applied : Option CompilerConfig := none
  compiler : σ

/-- What a request comes to before anything is done. -/
structure BuildPlan where
  slot : Slot
  bitcode : Bytes
  wrapper : Wrapper
  config : CompilerConfig
  dependencies : DependencyTable
  resolvers : ResolverChain

namespace BuildPlan

def signature (p : BuildPlan) : Bytes := p.config.signature

def script (p : BuildPlan) : Script :=
  ⟨p.slot.name, p.wrapper.payload p.bitcode, p.wrapper⟩

end BuildPlan

namespace Driver

variable {σ : Type}

/-- A driver for settings that go together. -/
def of (settings : Settings) (compiler : σ) : Except ConfigError (Driver σ) :=
  match settings.validate with
  | .error e => .error e
  | .ok () =>
    .ok { settings, store := ⟨settings.lock.policy, settings.cache.forceRecompile⟩, compiler }

/-- A driver is made for settings that go together, with no resolvers. -/
theorem of_eq_ok {settings : Settings} {compiler : σ} {d : Driver σ} :
    Driver.of settings compiler = .ok d ↔ settings.validate = .ok () ∧
      d = { settings, store := ⟨settings.lock.policy, settings.cache.forceRecompile⟩, compiler } := by
  unfold Driver.of
  cases settings.validate with
  | error e => simp
  | ok => simp [eq_comm]

/-- Asks one more resolver before every fallback. -/
def withRuntimeResolver (d : Driver σ) (r : Resolver) : Driver σ :=
  { d with runtimeResolvers := d.runtimeResolvers.add r }

/-- Asks one more resolver after all others. -/
def withFallbackResolver (d : Driver σ) (r : Resolver) : Driver σ :=
  { d with fallbackResolvers := d.fallbackResolvers.add r }

/-! ### Events -/

def loadedCached (resource : String) : Event where
  level := .debug
  message := "loaded cached script"
  fields := [.text "resource" resource, .elapsed]

def hitFailed (resource path : String) (error : LoadError) : Event where
  level := .warn
  message := "cached script failed to load, recompiling"
  fields := [.text "resource" resource, .text "path" path, .text "error" error.message]

def notCached (slot : Slot) (error : CacheError) : Event where
  level := .warn
  message := "unable to cache compiled script"
  fields := [.text "resource" slot.name, .text "path" slot.artifact, .text "error" error.message]

def loadFailed (resource : String) (error : LoadError) : Event where
  level := .error
  message := "compiled script failed to load"
  fields := [.text "resource" resource, .text "error" error.message]

def compiledScript (resource : String) (persisted : Bool) : Event where
  level := .debug
  message := "compiled script"
  fields := [.text "resource" resource, .text "persisted" (toString persisted), .elapsed]

def reconfiguring (c : CompilerConfig) : Event where
  level := .debug
  message := "reconfiguring compiler"
  fields := [.text "compiler_config" c.describe]

def compileFailed (resource : String) (error : CompileError) : Event where
  level := .error
  message := "compilation failed"
  fields := [.text "resource" resource, .text "error" error.message]

def compileFinished (resource : String) (object : Bytes) : Event where
  level := .debug
  message := "compile finished"
  fields := [.text "resource" resource, .nat "bytes" object.length, .elapsed]

/-! ### Planning -/

/-- The inputs of a build: the script, then the runtime modules. -/
def dependencies (name : String) (bitcode : Bytes) (runtime : List RuntimeModule) :
    DependencyTable :=
  runtime.foldl (fun table m => table.push m.name m.digest)
    (DependencyTable.push {} name (.ofBytes bitcode))

/-- Checks a request and works out what it asks for. -/
def plan (c : Compiler σ) (d : Driver σ) (r : BuildRequest) : Except RequestFlaw BuildPlan :=
  if r.folder.isEmpty then .error .emptyFolder
  else if r.bitcode.isEmpty then .error (.noBitcode r.name)
  else
    match Slot.of r.folder r.name with
    | .error flaw => .error (.badName r.name flaw)
    | .ok slot =>
      match Wrapper.parse r.bitcode with
      | .error flaw => .error (.badWrapper flaw)
      | .ok wrapper =>
        .ok {
          slot
          bitcode := r.bitcode
          wrapper
          config := .resolve wrapper d.settings.compiler
          dependencies := dependencies r.name r.bitcode (c.runtime d.compiler)
          resolvers := d.runtimeResolvers.followedBy d.fallbackResolvers }

/-! ### Building -/

variable [Wire.Memory]

/-- Looks a plan up in the cache and loads what is found. -/
def reuse (d : Driver σ) (p : BuildPlan) : Routine (Except BuildError (Option Built)) := do
  match ← d.store.lookup p.slot p.dependencies p.signature with
  | .brokenOff => return .error .brokenOff
  | .miss _ => return .ok none
  | .hit artifact =>
    match ← Executable.load artifact.bytes artifact.path p.resolvers with
    | .ok executable =>
      Routine.say (loadedCached p.slot.name)
      return .ok (some ⟨executable, .cacheHit, true⟩)
    | .error e =>
      Routine.say (hitFailed p.slot.name artifact.path e)
      return .ok none

/-- Gives the compiler a configuration, unless it is the one that it took over last. -/
def configure (c : Compiler σ) (d : Driver σ) (config : CompilerConfig) :
    Except CompileError Unit × Driver σ × List Event :=
  if d.applied = some config then (.ok (), d, [])
  else
    let reply := c.configure config d.compiler
    let applied := match reply.result with
      | .ok () => some config
      | .error _ => none
    (reply.result, { d with applied, compiler := reply.state },
      reconfiguring config :: reply.events)

/-- Configures the compiler and compiles. -/
def compile (c : Compiler σ) (d : Driver σ) (p : BuildPlan) :
    Routine (Except CompileError Bytes × Driver σ) := do
  let (configured, d, events) := configure c d p.config
  Routine.sayAll events
  match configured with
  | .error e =>
    Routine.say (compileFailed p.slot.name e)
    return (.error e, d)
  | .ok () =>
    let reply ← c.compile p.script d.compiler
    Routine.sayAll reply.events
    Routine.say (match reply.result with
      | .ok object => compileFinished p.slot.name object
      | .error e => compileFailed p.slot.name e)
    return (reply.result, { d with compiler := reply.state })

/-- Puts an object into the cache, and says whether it is there. -/
def persist (store : Store) (p : BuildPlan) (object : Bytes) : Routine Bool := do
  match ← store.insert p.slot object (.ofArtifact p.dependencies p.signature object) with
  | .ok () => return true
  | .error e =>
    Routine.say (notCached p.slot e)
    return false

/-- Puts a compiled object into the cache and loads it. -/
def finish (store : Store) (p : BuildPlan) (object : Bytes) : Routine (Except BuildError Built) := do
  let persisted ← persist store p object
  match ← Executable.load object p.slot.artifact p.resolvers with
  | .error e =>
    Routine.say (loadFailed p.slot.name e)
    return .error (.load p.slot.artifact e)
  | .ok executable =>
    Routine.say (compiledScript p.slot.name persisted)
    return .ok ⟨executable, .compiled, persisted⟩

/-- Compiles a plan that the cache had no answer for. -/
def buildAnew (c : Compiler σ) (d : Driver σ) (p : BuildPlan) :
    Routine (Except BuildError Built × Driver σ) := do
  let (result, d) ← compile c d p
  match result with
  | .error e => return (.error (.compile p.slot.name e), d)
  | .ok object => return (← finish d.store p object, d)

/-- Builds a script. -/
def build (c : Compiler σ) (d : Driver σ) (r : BuildRequest) :
    Routine (Except BuildError Built × Driver σ) := do
  match plan c d r with
  | .error flaw => return (.error (.invalidInput flaw.message), d)
  | .ok p =>
    match ← d.reuse p with
    | .error e => return (.error e, d)
    | .ok (some built) => return (.ok built, d)
    | .ok none => buildAnew c d p

end Driver

end ScriptCache
