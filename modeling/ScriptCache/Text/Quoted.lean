import ScriptCache.Text.Printable
import ScriptCache.Text.Numeral

/-! Quoted text, as values appear inside event fields and descriptions.

The quotes, the backslash and the line controls have short escapes; a character that
cannot be shown is its number in hexadecimal. -/
namespace ScriptCache.Text

/-- How one character stands between double quotes. -/
def quoteChar (c : Char) : List Char :=
  if c = '\x00' then ['\\', '0']
  else if c = '\t' then ['\\', 't']
  else if c = '\r' then ['\\', 'r']
  else if c = '\n' then ['\\', 'n']
  else if c = '"' then ['\\', '"']
  else if c = '\\' then ['\\', '\\']
  else if isPrintable c then [c]
  else ['\\', 'u', '\x7b'] ++ Nat.toDigits 16 c.toNat ++ ['\x7d']

/-- A text between double quotes. -/
def quoted (s : String) : String :=
  String.ofList ('"' :: s.toList.flatMap quoteChar ++ ['"'])

example : quoted "x\"y\\z\n" = "\"x\\\"y\\\\z\\n\"" := by decide +kernel
example : quoted "a\u200b" = "\"a\\u\x7b200b\x7d\"" := by decide +kernel

/-- Texts in square brackets, each quoted. -/
def quotedList (items : List String) : String :=
  "[" ++ ", ".intercalate (items.map quoted) ++ "]"

end ScriptCache.Text
