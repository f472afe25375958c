import FileSieve.Regex.Escape

/-!
# Bracketed classes

A bracketed class lists characters, ranges and classes, and may nest.  Besides the union of what
stands side by side there are three operators, all of one rank and applied from left to right:
`&&` for the common members, `--` for the difference, and `~~` for the members of one side only.
Where case is ignored, both sides of an operator are closed under case before it is applied, and
the class as a whole before it is negated.
-/

namespace FileSieve.Regex

/-! ## Unions -/

/-- The items that stand side by side in a class so far. -/
structure ClassUnion where
  /-- Their members. -/
  set : CodeSet := CodeSet.empty
  /-- Their number. -/
  count : Nat := 0
  /-- The greatest depth of an item. -/
  itemDepth : Nat := 0
  deriving Inhabited

namespace ClassUnion

/-- One more item. -/
def add (u : ClassUnion) (set : CodeSet) (depth : Nat := 0) : ClassUnion :=
  ⟨u.set.union set, u.count + 1, max u.itemDepth depth⟩

/-- How deeply the union nests; a single item stands for itself. -/
def depth (u : ClassUnion) : Nat :=
  if u.count ≤ 1 then u.itemDepth else u.itemDepth + 1

end ClassUnion

/-- The left side of an operator of a class. -/
structure ClassLeft where
  /-- The operator. -/
  op : CodeSet → CodeSet → CodeSet
  /-- The members of the left side. -/
  set : CodeSet
  /-- How deeply the left side nests. -/
  depth : Nat

/-- The members and the depth of a union after the operator to its left. -/
def joinLeft (flags : Flags) (left : Option ClassLeft) (u : ClassUnion) : CodeSet × Nat :=
  match left with
  | none => (u.set, u.depth)
  | some l => (l.op (flags.fold l.set) (flags.fold u.set), max l.depth u.depth + 1)

/-- The operator that is written by a doubled character, if there is one. -/
def classOperator? : Char → Option (CodeSet → CodeSet → CodeSet)
  | '&' => some CodeSet.inter
  | '-' => some CodeSet.diff
  | '~' => some CodeSet.symmDiff
  | _ => none

/-! ## Items -/

/-- An item of a class: a character, plain or escaped, or the class of an escape. -/
def classAtom (flags : Flags) : List Char → Except Error (Atom × List Char)
  | [] => .error .classUnclosed
  | '\\' :: rest => escape flags rest
  | c :: rest => .ok (.literal c false, rest)

/-- The code point of a character in a class; without Unicode classes it has to be ASCII. -/
def classPoint (flags : Flags) : Atom → Except Error Nat
  | .literal c _ =>
    if flags.unicode || c.toNat < 0x80 then .ok c.toNat else .error .unicode
  | _ => .error .classItem

/-- The members of an item that is not part of a range. -/
def classMembers (flags : Flags) : Atom → Except Error CodeSet
  | .set s => .ok s
  | atom => (classPoint flags atom).map CodeSet.singleton

/-- A character, a range or an escape in a class. -/
def classRange (flags : Flags) (cs : List Char) : Except Error (CodeSet × List Char) := do
  let (first, rest) ← classAtom flags cs
  let rest := skipBlanks flags rest
  match rest with
  | [] => .error .classUnclosed
  | c :: behind =>
    let next := (skipBlanks flags behind).head?
    if c ≠ '-' || next == some ']' || next == some '-' then
      let set ← classMembers flags first
      .ok (set, rest)
    else
      let (second, rest) ← classAtom flags (skipBlanks flags behind)
      let lo ← classPoint flags first
      let hi ← classPoint flags second
      if lo ≤ hi then .ok (CodeSet.range lo hi, rest) else .error .classRange

/-- A class such as `[:alpha:]`, if one stands after the bracket. -/
def namedBracket? (flags : Flags) (cs : List Char) : Option (Except Error (CodeSet × List Char)) :=
  match cs with
  | ':' :: rest =>
    let (negated, rest) :=
      match rest with
      | '^' :: rest => (true, rest)
      | rest => (false, rest)
    match splitAtMark [':'] rest with
    | some (name, ']' :: rest) =>
      (bracketClass? (String.ofList name)).map fun set =>
        (flags.finish negated set).map fun set => (set, rest)
    | _ => none
  | _ => none

/-- Hyphens at the start of a class, which stand for themselves; `fuel` bounds their number. -/
def leadingHyphens (flags : Flags) : (fuel : Nat) → ClassUnion → List Char →
    ClassUnion × List Char
  | fuel + 1, u, '-' :: rest =>
    leadingHyphens flags fuel (u.add (CodeSet.singleton '-'.toNat)) (skipBlanks flags rest)
  | _, u, cs => (u, cs)

/-- What a class starts with: whether it is negated, and the hyphens or the closing bracket that
stand for themselves there. -/
def classStart (flags : Flags) (cs : List Char) : (Bool × ClassUnion) × List Char :=
  let cs := skipBlanks flags cs
  let (negated, cs) :=
    match cs with
    | '^' :: rest => (true, skipBlanks flags rest)
    | cs => (false, cs)
  match leadingHyphens flags cs.length {} cs with
  | (u, ']' :: rest) =>
    if u.count = 0 then
      ((negated, u.add (CodeSet.singleton ']'.toNat)), skipBlanks flags rest)
    else ((negated, u), ']' :: rest)
  | (u, cs) => ((negated, u), cs)

/-! ## Whole classes -/

mutual

/-- A class after its opening bracket: its members and its depth; `fuel` bounds the number of
items. -/
def bracketClass (flags : Flags) : (fuel : Nat) → List Char →
    Except Error ((CodeSet × Nat) × List Char)
  | 0, _ => .error .classUnclosed
  | fuel + 1, cs => do
    let ((negated, u), cs) := classStart flags cs
    let ((set, depth), rest) ← classItems flags fuel none u cs
    let set ← flags.finish negated set
    .ok ((set, depth + 1), rest)

/-- The items of a class up to its closing bracket. -/
def classItems (flags : Flags) : (fuel : Nat) → Option ClassLeft → ClassUnion → List Char →
    Except Error ((CodeSet × Nat) × List Char)
  | 0, _, _, _ => .error .classUnclosed
  | fuel + 1, left, u, cs =>
    match skipBlanks flags cs with
    | [] => .error .classUnclosed
    | ']' :: rest => .ok (joinLeft flags left u, rest)
    | '[' :: rest =>
      match namedBracket? flags rest with
      | some (.error e) => .error e
      | some (.ok (set, rest)) => classItems flags fuel left (u.add set) rest
      | none =>
        match bracketClass flags fuel rest with
        | .error e => .error e
        | .ok ((set, depth), rest) => classItems flags fuel left (u.add set depth) rest
    | c :: rest =>
      let operator := if rest.head? == some c then classOperator? c else none
      match operator with
      | some op =>
        let (set, depth) := joinLeft flags left u
        classItems flags fuel (some ⟨op, set, depth⟩) {} (rest.drop 1)
      | none =>
        match classRange flags (c :: rest) with
        | .error e => .error e
        | .ok (set, rest) => classItems flags fuel left (u.add set) rest

end

end FileSieve.Regex
