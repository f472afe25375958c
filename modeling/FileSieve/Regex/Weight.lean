import FileSieve.Regex.Syntax

/-!
# The weight of a pattern

Counted repetitions multiply the size of a pattern, so there is a limit on it.  The weight is the
number of bytes of memory that a byte-wise automaton for the pattern takes: so much for every
state, and a little for every branch of a state that has several.  A character beyond ASCII is
several bytes, and a class of characters is as many sequences of byte ranges as its ranges split
into (`byteRanges`).

Two automata are weighed, one that reads the text forwards and marks the captured groups, and one
that reads it backwards; a pattern is too large if either exceeds `weightLimit`.
-/

namespace FileSieve.Regex

/-! ## Ranges of code points as sequences of byte ranges -/

/-- The number of bytes of a code point in UTF-8. -/
def utf8Length (x : Nat) : Nat :=
  if x < 0x80 then 1 else if x < 0x800 then 2 else if x < 0x10000 then 3 else 4

/-- The bytes of a code point in UTF-8. -/
def utf8Bytes (x : Nat) : List Nat :=
  match utf8Length x with
  | 1 => [x]
  | 2 => [0xC0 + x / 0x40, 0x80 + x % 0x40]
  | 3 => [0xE0 + x / 0x1000, 0x80 + x / 0x40 % 0x40, 0x80 + x % 0x40]
  | _ => [0xF0 + x / 0x40000, 0x80 + x / 0x1000 % 0x40, 0x80 + x / 0x40 % 0x40, 0x80 + x % 0x40]

/-- Where to cut a range so that its code points have one length in UTF-8 and every byte runs
through a full range wherever an earlier one varies: the last point of the first part. -/
def cut? (lo hi : Nat) : Option Nat :=
  let byLength := [0x7F, 0x7FF, 0xFFFF].find? fun last => lo ≤ last && last < hi
  match byLength with
  | some last => some last
  | none =>
    [6, 12, 18].findSome? fun bits =>
      let block := Nat.pow 2 bits
      if utf8Length lo = 1 ∨ lo / block = hi / block then none
      else if lo % block ≠ 0 then some (lo / block * block + block - 1)
      else if hi % block ≠ block - 1 then some (hi / block * block - 1)
      else none

/-- The sequences of byte ranges that match the code points from `lo` to `hi`; `fuel` bounds the
number of cuts. -/
def byteRanges : (fuel lo hi : Nat) → List (List (Nat × Nat))
  | 0, lo, hi => [(utf8Bytes lo).zip (utf8Bytes hi)]
  | fuel + 1, lo, hi =>
    match cut? lo hi with
    | none => [(utf8Bytes lo).zip (utf8Bytes hi)]
    | some last => byteRanges fuel lo last ++ byteRanges fuel (last + 1) hi

/-- The sequences of byte ranges of a set, without the surrogates, which are no characters. -/
def setByteRanges (set : CodeSet) : List (List (Nat × Nat)) :=
  (set.diff (CodeSet.range 0xD800 0xDFFF)).ranges.flatMap fun r => byteRanges 32 r.1 r.2

/-! ## Weights -/

/-- The bytes of a state. -/
def stateWeight : Nat := 32

/-- The bytes of a branch. -/
def branchWeight : Nat := 4

/-- The bytes of a transition of a state with several. -/
def transitionWeight : Nat := 8

/-- The weight limit. -/
def weightLimit : Nat := 10 * Nat.pow 2 20

/-- The number of different nonempty fronts of the listed sequences, where neighbours share the
front that they have in common. -/
def countFronts : (previous : List (Nat × Nat)) → List (List (Nat × Nat)) → Nat
  | _, [] => 0
  | previous, s :: rest => s.length - common previous s + countFronts s rest
where
  /-- The length of the common front of two sequences. -/
  common : List (Nat × Nat) → List (Nat × Nat) → Nat
    | x :: xs, y :: ys => if x = y then common xs ys + 1 else 0
    | _, _ => 0

/-- The weight of a set of characters, read forwards or backwards. -/
def setWeight (backwards : Bool) (set : CodeSet) : Nat :=
  if set.isBelow 0x80 then 2 * stateWeight + transitionWeight * set.ranges.length
  else
    let sequences := setByteRanges set
    if backwards then
      2 * stateWeight + stateWeight * countFronts [] sequences
        + branchWeight * sequences.length
    else 2 * stateWeight + 2 * transitionWeight * countFronts [] sequences

/-- The weight of a repetition whose body has the given weight. -/
def turnsWeight (weight least : Nat) : (most : Option Nat) → Nat
  | none => max least 1 * weight + stateWeight + 2 * branchWeight
  | some most =>
    least * weight + (most - least) * (weight + stateWeight + 2 * branchWeight) + stateWeight

mutual

/-- The weight of a pattern. -/
def weight (backwards : Bool) : Node → Nat
  | .empty => stateWeight
  | .setting => stateWeight
  | .literal c => stateWeight * utf8Length c.toNat
  | .chars set => setWeight backwards set
  | .bracket set _ => setWeight backwards set
  | .look _ => stateWeight
  | .group captures body =>
    weight backwards body + (if captures && !backwards then 2 * stateWeight else 0)
  | .turns body least most =>
    let (least, most) := body.turnBounds least most
    turnsWeight (weight backwards body) least most
  | .sequence parts => totalWeight backwards parts
  | .choice parts =>
    totalWeight backwards parts + 2 * stateWeight + branchWeight * parts.length

/-- The weight of several parts together. -/
def totalWeight (backwards : Bool) : List Node → Nat
  | [] => 0
  | part :: rest => weight backwards part + totalWeight backwards rest

end

/-- Whether a pattern stays within the limit. -/
def fits (node : Node) : Bool :=
  weight false node ≤ weightLimit && weight true node ≤ weightLimit

end FileSieve.Regex
