import ScriptCache.Machine.SysError

/-! Why a configuration was refused. -/
namespace ScriptCache

inductive ConfigError where
  | io (source : SysError)
  | parse (reason : String)
  /-- A value that its key does not take. -/
  | invalidValue (key value : String)
  /-- Values that do not go together. -/
  | validation (reason : String)
  deriving DecidableEq

namespace ConfigError

def message : ConfigError → String
  | io source => s!"failed to read configuration: {source.message}"
  | parse reason => s!"failed to parse configuration: {reason}"
  | invalidValue key value => s!"invalid value '{value}' for {key}"
  | validation reason => s!"validation error: {reason}"

/-- The errors behind an error, outermost first. -/
def causes : ConfigError → List String
  | io source => [source.message]
  | parse _ | invalidValue .. | validation _ => []

end ConfigError

end ScriptCache
