import ByteStreams.Text.Printable

/-!
# Quoted text

A text in double quotes on one line: quotes, backslashes and the usual control characters have
short escapes, every other character that is not printable is written as its code point.
-/

namespace ByteStreams.Text

/-- A code point in lower-case hexadecimal digits, without leading zeros. -/
def codePoint (c : Char) : String := String.ofList (Nat.toDigits 16 c.toNat)

/-- One character as it is written between quotes. -/
def escape (c : Char) : String :=
  if c = '\x00' then "\\0"
  else if c = '\t' then "\\t"
  else if c = '\n' then "\\n"
  else if c = '\r' then "\\r"
  else if c = '"' then "\\\""
  else if c = '\\' then "\\\\"
  else if isPrintable c then c.toString
  else "\\u\x7b" ++ codePoint c ++ "\x7d"

/-- A text in double quotes. -/
def quote (text : String) : String :=
  "\"" ++ String.join (text.toList.map escape) ++ "\""

end ByteStreams.Text
