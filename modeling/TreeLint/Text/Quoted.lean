import TreeLint.Text.Glyph

/-!
# Quoted text

Text inside a message is put between double quotes so that it can be read back
unambiguously: quotes and backslashes are escaped, the common control
characters have one-letter escapes, and every other character without a glyph
of its own is written by its number.
-/

namespace TreeLint

namespace Text

/-- The number of a character in lowercase hexadecimal. -/
def hexadecimal (code : Nat) : String :=
  String.ofList (Nat.toDigits 16 code)

/-- One character of quoted text. -/
def quoteChar (c : Char) : String :=
  if c == '"' then "\\\""
  else if c == '\\' then "\\\\"
  else if c == '\n' then "\\n"
  else if c == '\r' then "\\r"
  else if c == '\t' then "\\t"
  else if c == '\x00' then "\\0"
  else if isShown c then c.toString
  else "\\u\x7b" ++ hexadecimal c.toNat ++ "\x7d"

/-- Text between double quotes, escaped. -/
def quote (content : String) : String :=
  "\"" ++ String.join (content.toList.map quoteChar) ++ "\""

end Text

end TreeLint
