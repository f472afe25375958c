import Mathlib.Tactic.Common
import FileSieve.Expression.Evaluation

/-!
# Evaluating a level term by term

`Evaluation.ofItems` takes in the items of a level one at a time.  A level that has been built is a
term, and then connectives with a term after each.  This file says what the evaluation does with
these larger pieces: `ofItems_first` for the term at the front of a level, and `ofItems_and`,
`ofItems_or_true` and `ofItems_or_false` for a connective together with the term after it, when the
level so far has settled to one value.

The equations are about whole evaluations, so they account for the operands that are asked as well
as for the value, and they leave the rest of the level free.
-/

namespace FileSieve

variable {α ρ : Type}

namespace Evaluation

@[simp] lemma after_outcome (calls : List α) (e : Evaluation α) :
    (e.after calls).outcome = e.outcome := rfl

variable [Operand α ρ] {subject : Subject}

/-! ## One item -/

lemma ofItems_cons_operator {p next : Pending} {op : Operator}
    (h : p.accept (.operator op : Item α) (.ok false) = .ok (some next)) (rest : List (Item α)) :
    ofItems subject p (.operator op :: rest) = ofItems subject next rest := by
  simp only [ofItems, ofItem, h]
  rfl

omit [Operand α ρ] in
lemma accept_of_isTerm {x : Item α} (hx : x.isTerm = true) (p : Pending) (v : Bool) :
    p.accept x (.ok v) = p.pushValue v >>= Pending.reduce := by
  cases x with
  | operator op => simp [Item.isTerm] at hx
  | operand a => rfl
  | group inner => rfl

lemma ofItems_cons_term {x : Item α} {calls : List α} {v : Bool} (hx : x.isTerm = true)
    (hvalue : ofItem subject x = ⟨calls, .ok v⟩) {p next : Pending}
    (h : (p.pushValue v >>= Pending.reduce) = .ok (some next)) (rest : List (Item α)) :
    ofItems subject p (x :: rest) = (ofItems subject next rest).after calls := by
  simp only [ofItems, hvalue, accept_of_isTerm hx, h]

lemma ofItems_cons_term_decided {x : Item α} {calls : List α} {v : Bool} (hx : x.isTerm = true)
    (hvalue : ofItem subject x = ⟨calls, .ok v⟩) {p : Pending}
    (h : (p.pushValue v >>= Pending.reduce) = .ok none) (rest : List (Item α)) :
    ofItems subject p (x :: rest) = ⟨calls, .ok true⟩ := by
  simp only [ofItems, hvalue, accept_of_isTerm hx, h]

/-! ## One term -/

/-- The items of a term, with the operands that it asks and the value that it comes to. -/
inductive Yields (subject : Subject) : (items : List (Item α)) → (calls : List α) → Bool → Prop
  | plain {x : Item α} {calls : List α} {v : Bool} (hx : x.isTerm = true)
      (h : ofItem subject x = ⟨calls, .ok v⟩) : Yields subject [x] calls v
  | negated {x : Item α} {calls : List α} {v : Bool} (hx : x.isTerm = true)
      (h : ofItem subject x = ⟨calls, .ok v⟩) : Yields subject [.operator .not, x] calls (!v)

variable {items : List (Item α)} {calls : List α} {v : Bool}

lemma Yields.ne_nil (h : Yields subject items calls v) : items ≠ [] := by
  cases h with
  | plain _ _ => simp
  | negated _ _ => simp

lemma ofItems_first (h : Yields subject items calls v) (rest : List (Item α)) :
    ofItems subject {} (items ++ rest) = (ofItems subject { values := [v] } rest).after calls := by
  cases h with
  | plain hx h => exact ofItems_cons_term hx h rfl rest
  | @negated x _ v hx h =>
    have hnot : ({} : Pending).accept (.operator .not : Item α) (.ok false) =
        .ok (some { operators := [.not] }) := rfl
    rw [List.cons_append, ofItems_cons_operator hnot]
    exact ofItems_cons_term hx h rfl rest

lemma ofItems_and (r : Bool) (h : Yields subject items calls v) (rest : List (Item α)) :
    ofItems subject { values := [r] } (.operator .and :: (items ++ rest)) =
      (ofItems subject { values := [r && v] } rest).after calls := by
  have hand : ({ values := [r] } : Pending).accept (.operator .and : Item α) (.ok false) =
      .ok (some { values := [r], operators := [.and] }) := rfl
  rw [ofItems_cons_operator hand]
  cases h with
  | plain hx h => exact ofItems_cons_term hx h rfl rest
  | negated hx h =>
    have hnot : ({ values := [r], operators := [.and] } : Pending).accept
        (.operator .not : Item α) (.ok false) =
        .ok (some { values := [r], operators := [.not, .and] }) := rfl
    rw [List.cons_append, ofItems_cons_operator hnot]
    exact ofItems_cons_term hx h rfl rest

/-- A disjunction after a level that holds so far decides it, and asks nothing. -/
lemma ofItems_or_true (rest : List (Item α)) :
    ofItems subject { values := [true] } (.operator .or :: rest) = ⟨[], .ok true⟩ := by
  simp [ofItems, ofItem, Pending.accept, Pending.holds]

/-- A disjunction after a level that does not hold so far is decided by its right side, if that
holds. -/
lemma ofItems_or_false (h : Yields subject items calls v) (rest : List (Item α)) :
    ofItems subject { values := [false] } (.operator .or :: (items ++ rest)) =
      if v then ⟨calls, .ok true⟩
      else (ofItems subject { values := [false] } rest).after calls := by
  have hor : ({ values := [false] } : Pending).accept (.operator .or : Item α) (.ok false) =
      .ok (some { values := [false], operators := [.or] }) := rfl
  rw [ofItems_cons_operator hor]
  cases h with
  | @plain x _ v hx h =>
    cases v with
    | true => exact ofItems_cons_term_decided hx h rfl rest
    | false => exact ofItems_cons_term hx h rfl rest
  | @negated x _ v hx h =>
    have hnot : ({ values := [false], operators := [.or] } : Pending).accept
        (.operator .not : Item α) (.ok false) =
        .ok (some { values := [false], operators := [.not, .or] }) := rfl
    rw [List.cons_append, ofItems_cons_operator hnot]
    cases v with
    | true => exact ofItems_cons_term hx h rfl rest
    | false => exact ofItems_cons_term_decided hx h rfl rest

end Evaluation

end FileSieve
