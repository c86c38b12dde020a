import ScriptCache.Compiler.Basic
import ScriptCache.Object.Image

/-! A compiler with prepared answers, which keeps a record of its calls. -/
namespace ScriptCache

/-- The answers of a scripted compiler. -/
structure Answers where
  runtime : List RuntimeModule := []
  imports : List String := []
  exports : List Export := []
  /-- What every script is compiled to; else an image of the script's own bitcode. -/
  output : Option Bytes := none
  failConfigure : Option CompileError := none
  failCompile : Option CompileError := none

structure Scripted where
  answers : Answers
  /-- The calls so far, the first one first. -/
  configured : List CompilerConfig := []
  compiled : List Script := []

namespace Scripted

/-- The image of a script with the prepared symbols. -/
def image (answers : Answers) (script : Script) : ObjectImage :=
  ⟨answers.imports, answers.exports, script.bitcode⟩

/-- Records each call and then answers it; whether it was configured does not matter. -/
def compiler : Compiler Scripted where
  runtime s := s.answers.runtime
  configure c s :=
    { result := match s.answers.failConfigure with
        | some e => .error e
        | none => .ok ()
      state := { s with configured := s.configured ++ [c] } }
  compile script s := return {
      result := match s.answers.failCompile with
        | some e => .error e
        | none => .ok (s.answers.output.getD (image s.answers script).encode)
      state := { s with compiled := s.compiled ++ [script] } }

end Scripted

end ScriptCache
