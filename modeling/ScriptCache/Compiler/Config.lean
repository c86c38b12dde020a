import ScriptCache.Bitcode.Wrapper
import ScriptCache.Config.Settings

/-! What a script is compiled with, and its signature.

The settings of a compilation come from the bitcode's header, and the driver's own
settings take their place where there are any. The signature writes down all of them, so
equal signatures mean equal settings. -/
namespace ScriptCache

/-- What a script is compiled with. -/
structure CompilerConfig where
  level : UInt8
  precision : Precision
  /-- The version of the front end that made the bitcode. -/
  version : UInt32
  deriving DecidableEq

namespace CompilerConfig

/-- The settings of a header, with others in their place where there are any. -/
def resolve (w : Wrapper) (overrides : CompilerSettings) : CompilerConfig where
  level := overrides.optimizationLevel.getD w.level
  precision := overrides.precision.getD .full
  version := w.compilerVersion

/-- The version of the signature itself. -/
def signatureVersion : UInt8 := 1

def signature (c : CompilerConfig) : Bytes :=
  signatureVersion :: c.level :: c.precision.code :: Bytes.littleEndian 4 c.version.toNat

def describe (c : CompilerConfig) : String :=
  s!"CompilerConfig \x7b optimization_level: {c.level}, precision: {c.precision.label}, " ++
    s!"compiler_version: {c.version} \x7d"

end CompilerConfig

end ScriptCache
