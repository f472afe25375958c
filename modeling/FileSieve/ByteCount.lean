import FileSieve.Text.Blank
import FileSieve.Text.Decimal

/-!
# Byte counts

The sizes that an operand is given: a decimal number, perhaps a unit, and the letters `i` and `b`
as decoration, as in `512`, `10K`, `2 MiB` or `1gb`.  Units are powers of 1024.  A count is below
`ByteCount.limit`; a larger number has no reading, before or after its unit is applied.
-/

namespace FileSieve.ByteCount

/-! ## Parts of a size -/

/-- Byte counts are below this number. -/
def limit : Nat := Nat.pow 2 64

/-- The characters that are read as a unit: the four unit letters in both cases, and the Kelvin
sign, which is a case variant of `k`. -/
def isUnit (c : Char) : Bool :=
  ['k', 'm', 'g', 't'].contains c.toLower || c.toNat == 0x212A

/-- The power of two that a unit stands for.  Case is ignored for ASCII letters only; every unit
other than `k`, `m` and `g` is the largest one. -/
def unitExponent (c : Char) : Nat :=
  match c.toLower with
  | 'k' => 10
  | 'm' => 20
  | 'g' => 30
  | _ => 40

/-- The exponent of the unit at the front, zero if there is none, and what follows it. -/
def takeUnit : List Char → Nat × List Char
  | c :: rest => if isUnit c then (unitExponent c, rest) else (0, c :: rest)
  | [] => (0, [])

/-- The text without the given letter at its front, in either case. -/
def dropLetter (letter : Char) : List Char → List Char
  | c :: rest => if c.toLower = letter then rest else c :: rest
  | [] => []

/-! ## Reading -/

/-- The byte count of trimmed text. -/
def readTrimmed? (cs : List Char) : Option Nat :=
  let digits := cs.takeWhile Char.isDigit
  let (exponent, rest) := takeUnit ((cs.dropWhile Char.isDigit).dropWhile Text.isBlank)
  let count := Text.decimal digits
  if digits.isEmpty || !(dropLetter 'b' (dropLetter 'i' rest)).isEmpty then none
  else if count < limit && count * Nat.pow 2 exponent < limit then
    some (count * Nat.pow 2 exponent)
  else none

/-- The byte count that a text stands for, blanks at its ends aside. -/
def read? (text : String) : Option Nat :=
  readTrimmed? (Text.trimBlank text.toList)

end FileSieve.ByteCount
