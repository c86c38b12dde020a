import ScriptCache.Config.Decode
import ScriptCache.Machine.Files
import ScriptCache.Text.Utf8

/-! Configuration files. -/
namespace ScriptCache.Settings

def loaded (path : String) : Event where
  level := .debug
  message := "loaded driver configuration"
  fields := [.text "path" path]

/-- Reads settings from a file, which has to be text. -/
def load (path : String) : Routine (Except ConfigError Settings) := do
  match ← Files.read path with
  | .error e => return .error (.io e)
  | .ok bytes =>
    match Utf8.decode bytes with
    | .error _ => return .error (.io .notText)
    | .ok text =>
      Routine.say (loaded path)
      return parse text

end ScriptCache.Settings
