/-! Numerals as they appear in messages: addresses and tags in lower-case hexadecimal. -/
namespace ScriptCache.Numeral

/-- `0x`, then the hexadecimal digits of `n`, at least `width` of them. -/
def hex (width n : Nat) : String :=
  let digits := Nat.toDigits 16 n
  String.ofList ('0' :: 'x' :: (List.replicate (width - digits.length) '0' ++ digits))

example : hex 0 0xbeef = "0xbeef" := by decide +kernel
example : hex 0 0 = "0x0" := by decide +kernel
example : hex 4 0x99 = "0x0099" := by decide +kernel

end ScriptCache.Numeral
