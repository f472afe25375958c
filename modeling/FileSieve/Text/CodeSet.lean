/-!
# Sets of code points

A `CodeSet` is a set of code points given by the points at which membership switches: the first
bound starts the first run of members, the second ends it, and so on.  Bounds are kept strictly
increasing, so a membership question is one binary search, and every Boolean operation on sets is
one merge of two bound lists (`CodeSet.combine`).

The tables of the character database enter through `CodeSet.ofRuns`, which reads a list of run
lengths, alternately outside and inside the set.
-/

namespace FileSieve

/-- A set of code points, as the increasing list of the points where membership switches. -/
structure CodeSet where
  /-- The switching points; before the first one nothing is a member. -/
  bounds : Array Nat
  deriving Repr, DecidableEq, Inhabited

namespace CodeSet

/-! ## Membership -/

/-- The number of bounds that are at most `x`, searched between the indices `lo` and `hi`. -/
def rank (bounds : Array Nat) (x : Nat) : (fuel lo hi : Nat) → Nat
  | 0, lo, _ => lo
  | fuel + 1, lo, hi =>
    if hi ≤ lo then lo
    else
      let mid := (lo + hi) / 2
      match bounds[mid]? with
      | some b => if b ≤ x then rank bounds x fuel (mid + 1) hi else rank bounds x fuel lo mid
      | none => lo

/-- Whether code point `x` is in the set: an odd number of switches lies at or before it. -/
def contains (s : CodeSet) (x : Nat) : Bool :=
  rank s.bounds x (s.bounds.size + 1) 0 s.bounds.size % 2 == 1

/-- Whether a character is in the set. -/
def containsChar (s : CodeSet) (c : Char) : Bool :=
  s.contains c.toNat

/-- Whether the set has no member. -/
def isEmpty (s : CodeSet) : Bool :=
  s.bounds.isEmpty

/-! ## Construction -/

/-- The number of code points. -/
def limit : Nat := 0x110000

/-- The set without members. -/
def empty : CodeSet := ⟨#[]⟩

/-- All code points from `lo` to `hi`, both included. -/
def range (lo hi : Nat) : CodeSet :=
  if lo ≤ hi then ⟨#[lo, hi + 1]⟩ else empty

/-- One code point. -/
def singleton (x : Nat) : CodeSet := range x x

/-- Every code point. -/
def all : CodeSet := range 0 (limit - 1)

/-- The bounds reached by adding up run lengths from `start`. -/
def partialSums (start : Nat) : List Nat → List Nat
  | [] => []
  | n :: rest => (start + n) :: partialSums (start + n) rest

/-- The set whose run lengths are listed, alternately outside and inside the set. -/
def ofRuns (runs : List Nat) : CodeSet :=
  ⟨(partialSums 0 runs).toArray⟩

/-! ## Boolean operations -/

/-- Merges two bound lists.  `a` and `b` say whether the scan is inside the first and the second
set, `out` whether it is inside the result. -/
def mergeBounds (op : Bool → Bool → Bool) (a b out : Bool) : (xs ys : List Nat) → List Nat
  | [], [] => []
  | x :: xs, [] =>
    if op (!a) b == out then mergeBounds op (!a) b out xs []
    else x :: mergeBounds op (!a) b (!out) xs []
  | [], y :: ys =>
    if op a (!b) == out then mergeBounds op a (!b) out [] ys
    else y :: mergeBounds op a (!b) (!out) [] ys
  | x :: xs, y :: ys =>
    if x < y then
      if op (!a) b == out then mergeBounds op (!a) b out xs (y :: ys)
      else x :: mergeBounds op (!a) b (!out) xs (y :: ys)
    else if y < x then
      if op a (!b) == out then mergeBounds op a (!b) out (x :: xs) ys
      else y :: mergeBounds op a (!b) (!out) (x :: xs) ys
    else if op (!a) (!b) == out then mergeBounds op (!a) (!b) out xs ys
    else x :: mergeBounds op (!a) (!b) (!out) xs ys
termination_by xs ys => xs.length + ys.length

/-- The set of points whose membership in the two sets `op` combines to `true`; `op` maps two
non-members to a non-member. -/
def combine (op : Bool → Bool → Bool) (s t : CodeSet) : CodeSet :=
  ⟨(mergeBounds op false false false s.bounds.toList t.bounds.toList).toArray⟩

/-- Points in either set. -/
def union (s t : CodeSet) : CodeSet := combine (· || ·) s t

/-- Points in both sets. -/
def inter (s t : CodeSet) : CodeSet := combine (· && ·) s t

/-- Points in the first set and not in the second. -/
def diff (s t : CodeSet) : CodeSet := combine (fun a b => a && !b) s t

/-- Points in exactly one of the two sets. -/
def symmDiff (s t : CodeSet) : CodeSet := combine Bool.xor s t

/-- All code points outside the set. -/
def compl (s : CodeSet) : CodeSet := all.diff s

/-- The union of a list of sets, joined pairwise so that large lists stay cheap. -/
def unionAll : (fuel : Nat) → List CodeSet → CodeSet
  | _, [] => empty
  | _, [s] => s
  | 0, s :: _ => s
  | fuel + 1, sets => unionAll fuel (pairUp sets)
where
  /-- Joins neighbours, which halves the list. -/
  pairUp : List CodeSet → List CodeSet
    | s :: t :: rest => s.union t :: pairUp rest
    | sets => sets

/-- The set with the listed points. -/
def ofPoints (points : List Nat) : CodeSet :=
  unionAll points.length (points.map singleton)

/-- The runs of members, as pairs of the first and the last point. -/
def ranges (s : CodeSet) : List (Nat × Nat) :=
  pairs s.bounds.toList
where
  /-- Reads bounds two at a time. -/
  pairs : List Nat → List (Nat × Nat)
    | lo :: stop :: rest => (lo, stop - 1) :: pairs rest
    | [lo] => [(lo, limit - 1)]
    | [] => []

/-- Whether every member lies below `stop`. -/
def isBelow (s : CodeSet) (stop : Nat) : Bool :=
  s.ranges.all fun r => r.2 < stop

end CodeSet

end FileSieve
