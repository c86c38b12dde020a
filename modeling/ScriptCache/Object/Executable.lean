import ScriptCache.Machine.Files
import ScriptCache.Object.Image
import ScriptCache.Object.Resolver

/-! Executables: images with every import bound to an address.

An image can be linked if its exports have different names and lie inside its code, and
if the resolvers know all its imports. The first export at fault, else the first import
that nobody knows, is the error. -/
namespace ScriptCache

/-- Why there is no executable. -/
inductive LoadError where
  | io (path : String) (source : SysError)
  | malformed (reason : String)
  | unresolved (name : String)
  deriving DecidableEq

namespace LoadError

def message : LoadError → String
  | io path source => s!"failed to read {path}: {source.message}"
  | malformed reason => s!"malformed executable: {reason}"
  | unresolved name => s!"unresolved symbol '{name}'"

/-- The errors behind an error, outermost first. -/
def causes : LoadError → List String
  | io _ source => [source.message]
  | malformed _ | unresolved _ => []

end LoadError

/-- A program ready to run. -/
structure Executable where
  /-- The file it was loaded for. -/
  origin : String
  text : Bytes
  /-- The places of the exported symbols, in the order of the names. -/
  exports : List (String × UInt64)
  /-- The addresses of the imported symbols. -/
  imports : List (String × UInt64)
  deriving DecidableEq

namespace Executable

/-- The place of an exported symbol. -/
def symbol? (e : Executable) (name : String) : Option UInt64 :=
  e.exports.lookup name

/-- The address of an imported symbol. -/
def import? (e : Executable) (name : String) : Option UInt64 :=
  e.imports.lookup name

def unresolved (origin name : String) : Event where
  level := .warn
  message := "unresolved symbol"
  fields := [.text "symbol" name, .text "origin" origin]

def resolved (name : String) (address : UInt64) (source : String) : Event where
  level := .debug
  message := "resolved import"
  fields := [.text "symbol" name, .text "address" (Numeral.hex 0 address.toNat),
    .text "resolver" source]

/-- The first export that lies outside the code or has a name used before. -/
def exportFlaw? (size : Nat) : List String → List Export → Option ImageFlaw
  | _, [] => none
  | seen, e :: rest =>
    if size ≤ e.offset.toNat then some (.outside e.name e.offset size)
    else if seen.contains e.name then some (.repeated e.name)
    else exportFlaw? size (e.name :: seen) rest

/-- The addresses of some symbols, up to the first that nobody knows. -/
def bindImports (origin : String) (resolvers : ResolverChain) :
    List String → Except LoadError (List (String × UInt64)) × List Event
  | [] => (.ok [], [])
  | name :: rest =>
    match resolvers.resolve name with
    | none => (.error (.unresolved name), [unresolved origin name])
    | some (address, source) =>
      let (others, events) := bindImports origin resolvers rest
      (others.map ((name, address) :: ·), resolved name address source :: events)

/-- Exports in the order of their names. -/
def inNameOrder (exports : List Export) : List (String × UInt64) :=
  (exports.map fun e => (e.name, e.offset)).mergeSort fun a b =>
    (Bytes.compare (Utf8.encode a.1) (Utf8.encode b.1)).isLE

/-- Makes an image into an executable. -/
def link (image : ObjectImage) (origin : String) (resolvers : ResolverChain) :
    Except LoadError Executable × List Event :=
  match exportFlaw? image.text.length [] image.exports with
  | some flaw => (.error (.malformed flaw.message), [])
  | none =>
    let (imports, events) := bindImports origin resolvers image.imports
    (imports.map fun imports => ⟨origin, image.text, inNameOrder image.exports, imports⟩, events)

/-- Makes the bytes of an image into an executable. -/
def loadImage (bytes : Bytes) (origin : String) (resolvers : ResolverChain) :
    Except LoadError Executable × List Event :=
  match ObjectImage.decode bytes with
  | .error flaw => (.error (.malformed flaw.message), [])
  | .ok image => link image origin resolvers

/-- Loads an image in memory and says what happens. -/
def load (bytes : Bytes) (origin : String) (resolvers : ResolverChain) :
    Routine (Except LoadError Executable) := do
  let (result, events) := loadImage bytes origin resolvers
  Routine.sayAll events
  return result

/-- Loads the image in a file. -/
def loadFile (path : String) (resolvers : ResolverChain) : Routine (Except LoadError Executable) := do
  match ← Files.read path with
  | .error e => return .error (.io path e)
  | .ok bytes => load bytes path resolvers

end Executable

end ScriptCache
