import FileSieve.Text.Property

/-!
# Quoted text

A text between double quotes, in which every character that cannot be seen is spelled out: the
common control characters by a letter, and any other invisible or combining character by its code
point in hexadecimal.
-/

namespace FileSieve.Text

/-- The hexadecimal digits of a number, without leading zeros. -/
def hexadecimal (n : Nat) : String :=
  String.ofList (Nat.toDigits 16 n)

/-- How a character is spelled between double quotes. -/
def quotedChar (c : Char) : String :=
  if c = '\x00' then "\\0"
  else if c = '\t' then "\\t"
  else if c = '\r' then "\\r"
  else if c = '\n' then "\\n"
  else if c = '\\' then "\\\\"
  else if c = '"' then "\\\""
  else if c.toNat < 0x7F && 0x20 ≤ c.toNat then String.singleton c
  else if graphemeExtend.containsChar c || invisible.containsChar c then
    "\\u\x7b" ++ hexadecimal c.toNat ++ "\x7d"
  else String.singleton c

/-- A text between double quotes. -/
def quoted (text : String) : String :=
  "\"" ++ String.join (text.toList.map quotedChar) ++ "\""

end FileSieve.Text
