import Mathlib.Order.Bounds.Basic
import FileSieve.Proofs.Expression.Item
import FileSieve.Proofs.Expression.Level
import FileSieve.Proofs.Expression.Value

/-!
# The operands that an evaluation asks

The terms of a level are asked from left to right, and each connective applies to the running value
of the level.  The level stops after a term if it is the last one, or if the running value is true
and a disjunction stands before the term or after it (`Level.stopsAfter`); a conjunction never stops
it.  `Level.answer` states what follows: the running value at the first stop, and the calls of all
terms up to there.  `Expression.answer` applies it at every depth, from the inside out, so that a
group contributes the calls of its own level and its stop ends nothing but itself.

The main result `Built.evaluate_eq_answer` says that these are the value and the calls of the
evaluation of a built expression.  `Evaluation.Answered` is the invariant behind it, one statement
for each kind of phrase.
-/

namespace FileSieve

open Grammar Evaluation

variable {α ρ : Type}

namespace Level

/-! ## Terms and running values -/

/-- What a term comes to: its value, and the operands that are asked for it. -/
structure Answer (α : Type) where
  value : Bool
  calls : List α

/-- The answer with earlier calls before it. -/
def Answer.after (calls : List α) (a : Answer α) : Answer α :=
  { a with calls := calls ++ a.calls }

/-- A term of a level. -/
structure Term (α : Type) where
  /-- The connective before the term, which the first term of a level does not have. -/
  before : Option Operator
  /-- Whether a negation stands directly before the operand or the group. -/
  negated : Bool
  /-- What the operand or the group comes to. -/
  answer : Answer α

namespace Term

/-- The value of the term. -/
def value (t : Term α) : Bool := if t.negated then !t.answer.value else t.answer.value

/-- The running value after the term, from the one before it. -/
def join (t : Term α) (running : Bool) : Bool :=
  match t.before with
  | some .and => running && t.value
  | some .or => running || t.value
  | _ => t.value

/-- Whether a disjunction stands before the term. -/
def isDisjunct (t : Term α) : Bool := t.before == some .or

end Term

/-- The terms of a level in which each operand or group has its answer in its place, where a
connective and a negation may come before. -/
def terms : (before : Option Operator) → (negated : Bool) → List (Item (Answer α)) → List (Term α)
  | _, _, [] => []
  | before, _, .operator .not :: rest => terms before true rest
  | _, _, .operator op :: rest => terms (some op) false rest
  | before, negated, .operand answer :: rest => ⟨before, negated, answer⟩ :: terms none false rest
  | _, _, .group _ :: rest => terms none false rest

/-- The running value after the term at `k`.  What it is at the start makes no difference if the
first term has no connective before it. -/
def running (ts : List (Term α)) (k : Nat) (start : Bool := false) : Bool :=
  (ts.take (k + 1)).foldl (fun r t => t.join r) start

/-- Whether the level stops after the term at `k`: it is the last one, or the running value is true
and a disjunction stands before the term or after it. -/
def stopsAfter (ts : List (Term α)) (k : Nat) (start : Bool := false) : Bool :=
  k + 1 == ts.length ||
    running ts k start && (ts[k]?.any Term.isDisjunct || ts[k + 1]?.any Term.isDisjunct)

/-- The first place at which the level stops. -/
def lastAsked (ts : List (Term α)) (start : Bool := false) : Nat :=
  (List.range ts.length).findIdx fun k => stopsAfter ts k start

/-- What a level comes to: the running value where it stops, and the calls of its terms up to
there. -/
def answer (ts : List (Term α)) (start : Bool := false) : Answer α where
  value := running ts (lastAsked ts start) start
  calls := (ts.take (lastAsked ts start + 1)).flatMap fun t => t.answer.calls

end Level

section

variable [Operand α ρ]

/-- The items of a level, with what each term comes to on a subject in its place. -/
def Item.answers (subject : Subject) (items : List (Item α)) : List (Item (Level.Answer α)) :=
  foldAll (fun a => ⟨Operand.eval a subject, [a]⟩)
    (fun level => Level.answer (Level.terms none false level)) items

/-- The terms of a level, as they are on a subject. -/
def Level.termsOn (subject : Subject) (items : List (Item α)) : List (Term α) :=
  terms none false (Item.answers subject items)

/-- What an expression comes to on a subject. -/
def Expression.answer (e : Expression α) (subject : Subject) : Level.Answer α :=
  Level.answer (Level.termsOn subject e.items)

end

/-! ## Where a level stops -/

namespace Level

variable {t : Term α} {ts : List (Term α)} {start : Bool}

lemma stopsAfter_zero :
    stopsAfter (t :: ts) 0 start =
      (ts.isEmpty || t.join start && (t.isDisjunct || ts.head?.any Term.isDisjunct)) := by
  cases ts with
  | nil => simp [stopsAfter]
  | cons u us => simp [stopsAfter, running]

lemma stopsAfter_succ (k : Nat) :
    stopsAfter (t :: ts) (k + 1) start = stopsAfter ts k (t.join start) := by
  simp [stopsAfter, running]

lemma lastAsked_cons :
    lastAsked (t :: ts) start =
      if stopsAfter (t :: ts) 0 start then 0 else lastAsked ts (t.join start) + 1 := by
  rw [lastAsked, List.length_cons, List.range_succ_eq_map, List.findIdx_cons, List.findIdx_map]
  cases stopsAfter (t :: ts) 0 start with
  | true => rfl
  | false => simp [lastAsked, stopsAfter_succ, Function.comp_def]

/-- A level is answered term by term. -/
lemma answer_cons :
    answer (t :: ts) start =
      if stopsAfter (t :: ts) 0 start then ⟨t.join start, t.answer.calls⟩
      else (answer ts (t.join start)).after t.answer.calls := by
  rw [answer, lastAsked_cons]
  cases stopsAfter (t :: ts) 0 start with
  | true => simp [running]
  | false => simp [answer, Answer.after, running]

/-- The last term that is asked is the first one after which the level stops. -/
lemma isLeast_lastAsked (hne : ts ≠ []) :
    IsLeast {k | stopsAfter ts k start = true} (lastAsked ts start) := by
  induction ts generalizing start with
  | nil => contradiction
  | cons t ts ih =>
    rw [lastAsked_cons]
    split
    · next hzero => exact ⟨hzero, fun k _ => k.zero_le⟩
    · next hzero =>
      have hts : ts ≠ [] := by
        rintro rfl
        simp [stopsAfter_zero] at hzero
      obtain ⟨hstops, hleast⟩ := @ih (t.join start) hts
      constructor
      · change stopsAfter (t :: ts) (lastAsked ts (t.join start) + 1) start = true
        rw [stopsAfter_succ]
        exact hstops
      · intro k hk
        cases k with
        | zero => contradiction
        | succ k =>
          have hk : stopsAfter ts k (t.join start) = true := by
            rw [← stopsAfter_succ]
            exact hk
          exact Nat.succ_le_succ (hleast hk)

end Level

/-! ## Evaluation and answer -/

namespace Evaluation

open Level

variable [Operand α ρ]

/-- The evaluation that comes to an answer. -/
def ofAnswer (a : Answer α) : Evaluation α := ⟨a.calls, .ok a.value⟩

/-- The evaluation of a level from the term `t` on, which has made the running value `r`. -/
def fromTerm (subject : Subject) (t : Term α) (r : Bool) (level : List (Item α)) : Evaluation α :=
  if t.isDisjunct && r then ⟨t.answer.calls, .ok true⟩
  else (ofItems subject { values := [r] } level).after t.answer.calls

/-- The items are one term, which is `t` up to the connective before it. -/
def MakesTerm (subject : Subject) (level : List (Item α)) (t : Term α) : Prop :=
  ∀ before rest, terms before false (Item.answers subject level ++ rest) =
    { t with before } :: terms none false rest

/-- What a phrase contributes to the evaluation of its level, and to the terms of the level.  A tail
is evaluated as its terms are answered, whatever term stands before it. -/
def Answered (subject : Subject) : Phrase → List (Item α) → Prop
  | .primary, level => ∃ x a, level = [x] ∧ x.isTerm = true ∧
      ofItem subject x = ofAnswer a ∧ Item.answers subject [x] = [.operand a]
  | .term, level => ∃ t : Term α, Yields subject level t.answer.calls t.value ∧
      MakesTerm subject level t
  | .tail, level => ∀ (t : Term α) (start : Bool),
      fromTerm subject t (t.join start) level =
        ofAnswer (answer (t :: termsOn subject level) start)
  | .expression, level => termsOn subject level ≠ [] ∧
      ofItems subject {} level = ofAnswer (answer (termsOn subject level))

variable {subject : Subject} {level after : List (Item α)}

lemma Answered.group (h : Answered subject .expression level) :
    Answered subject .primary [.group level] := by
  obtain ⟨-, h⟩ := h
  refine ⟨_, answer (termsOn subject level), rfl, rfl, ?_, rfl⟩
  rw [ofItem, h]

lemma Answered.plain (h : Answered subject .primary level) : Answered subject .term level := by
  obtain ⟨x, a, rfl, hx, heval, hanswers⟩ := h
  refine ⟨⟨none, false, a⟩, .plain hx heval, fun before rest => ?_⟩
  rw [hanswers]
  rfl

lemma Answered.negated (h : Answered subject .primary level) :
    Answered subject .term (.operator .not :: level) := by
  obtain ⟨x, a, rfl, hx, heval, hanswers⟩ := h
  refine ⟨⟨none, true, a⟩, .negated hx heval, fun before rest => ?_⟩
  have hnot : Item.answers subject [.operator .not, x] =
      .operator .not :: Item.answers subject [x] := rfl
  rw [hnot, hanswers]
  rfl

lemma answered_done : Answered subject .tail ([] : List (Item α)) := by
  intro t start
  have hterms : termsOn subject ([] : List (Item α)) = [] := rfl
  rw [hterms, answer_cons, stopsAfter_zero, fromTerm]
  cases t.join start <;> simp [ofItems, Pending.result, ofAnswer, Evaluation.after]

lemma MakesTerm.terms_append {t : Term α} (h : MakesTerm subject level t)
    (before : Option Operator) :
    terms before false (Item.answers subject (level ++ after)) =
      { t with before } :: termsOn subject after := by
  rw [Item.answers, Item.foldAll_append]
  exact h before _

lemma fromTerm_and (u : Term α) (r : Bool) :
    fromTerm subject { u with before := some .and } (r && u.value) level =
      (ofItems subject { values := [r && u.value] } level).after u.answer.calls := by
  simp [fromTerm, Term.isDisjunct]

lemma fromTerm_or (u : Term α) :
    fromTerm subject { u with before := some .or } u.value level =
      if u.value then ⟨u.answer.calls, .ok true⟩
      else (ofItems subject { values := [false] } level).after u.answer.calls := by
  rw [fromTerm]
  cases u.value <;> simp [Term.isDisjunct]

/-- A conjunction does not stop the level: its right side is asked even if its left side is
false. -/
lemma Answered.and (h : Answered subject .term level) (hrest : Answered subject .tail after) :
    Answered subject .tail (.operator .and :: (level ++ after)) := by
  obtain ⟨u, hyields, hlevel⟩ := h
  intro t start
  have hterms : termsOn subject (.operator .and :: (level ++ after)) =
      { u with before := some .and } :: termsOn subject after :=
    hlevel.terms_append (some .and)
  have hafter := hrest { u with before := some .and } (t.join start)
  change fromTerm subject _ (t.join start && u.value) after = _ at hafter
  rw [fromTerm_and] at hafter
  rw [hterms, answer_cons, stopsAfter_zero, fromTerm, ofItems_and _ hyields, hafter]
  cases t.join start <;> cases t.isDisjunct <;>
    simp [Term.isDisjunct, ofAnswer, Answer.after, Evaluation.after]

/-- A disjunction stops the level if its left side is true, and otherwise if its right side is. -/
lemma Answered.or (h : Answered subject .term level) (hrest : Answered subject .tail after) :
    Answered subject .tail (.operator .or :: (level ++ after)) := by
  obtain ⟨u, hyields, hlevel⟩ := h
  intro t start
  have hterms : termsOn subject (.operator .or :: (level ++ after)) =
      { u with before := some .or } :: termsOn subject after :=
    hlevel.terms_append (some .or)
  rw [hterms, answer_cons, stopsAfter_zero, fromTerm]
  cases t.join start with
  | true =>
    rw [ofItems_or_true]
    cases t.isDisjunct <;> simp [Term.isDisjunct, ofAnswer, Evaluation.after]
  | false =>
    have hafter := hrest { u with before := some .or } false
    change fromTerm subject _ u.value after = _ at hafter
    rw [fromTerm_or] at hafter
    rw [ofItems_or_false hyields, hafter]
    simp [Term.isDisjunct, ofAnswer, Answer.after, Evaluation.after]

lemma Answered.expression (h : Answered subject .term level)
    (hrest : Answered subject .tail after) : Answered subject .expression (level ++ after) := by
  obtain ⟨t, hyields, hlevel⟩ := h
  have hterms : termsOn subject (level ++ after) =
      { t with before := none } :: termsOn subject after := hlevel.terms_append none
  refine ⟨by simp [hterms], ?_⟩
  rw [hterms, ← hrest, ofItems_first hyields]
  rfl

lemma answered_of_elaborates {p : Phrase} {source : List (Item α)}
    (h : Elaborates PreparesTo p source level) : Answered subject p level := by
  induction h with
  | unit h =>
    cases h with
    | @operand a b _ =>
      exact ⟨.operand b, ⟨Operand.eval b subject, [b]⟩, rfl, rfl, by rw [ofItem, ofAnswer], rfl⟩
  | brackets _ ih => exact ih.group
  | plain _ ih => exact ih.plain
  | negated _ ih => exact ih.negated
  | done => exact answered_done
  | more hop _ _ ih ihrest =>
    obtain rfl | rfl := Operator.isBinary_iff.mp hop
    · exact ih.and ihrest
    · exact ih.or ihrest
  | expression _ _ ih ihrest => exact ih.expression ihrest

/-! ## Calls and operands -/

lemma ofItems_calls_sublist_of_forall (h : ∀ x ∈ level, (ofItem subject x).calls.Sublist x.operands)
    (p : Pending) : (ofItems subject p level).calls.Sublist (Item.sequenceOperands level) := by
  induction level generalizing p with
  | nil => exact List.nil_sublist _
  | cons x level ih =>
    obtain ⟨hx, hlevel⟩ := List.forall_mem_cons.mp h
    have hfirst : (ofItem subject x).calls.Sublist (Item.sequenceOperands (x :: level)) :=
      hx.trans (List.sublist_append_left _ _)
    simp only [ofItems]
    split
    · exact hfirst
    · exact hfirst
    · exact hx.append (ih hlevel _)

/-- No operand of an item is asked out of its turn. -/
lemma ofItem_calls_sublist (x : Item α) : (ofItem subject x).calls.Sublist x.operands := by
  induction x using Item.induction with
  | operator op => exact List.nil_sublist _
  | operand a => exact List.Sublist.refl _
  | group items ih => exact ofItems_calls_sublist_of_forall ih {}

end Evaluation

namespace Expression

lemma calls_sublist [Operand α ρ] (e : Expression α) (subject : Subject) :
    (e.calls subject).Sublist e.operands :=
  ofItems_calls_sublist_of_forall (fun x _ => ofItem_calls_sublist x) {}

/-- **Evaluation asks the terms up to the first stop.**  The evaluation of a built expression on a
subject comes to its answer.  Every level asks its terms from the first one up to the first one
after which it stops, and no other; its value is the running value there.  So the operands are asked
in their order, and no occurrence of one is asked twice; this is about occurrences, since operands of
any type may carry marks that tell them apart. -/
theorem Built.evaluate_eq_answer [Operand α ρ] {e : Expression α} (h : e.Built)
    (subject : Subject) :
    (e.calls subject = (e.answer subject).calls ∧ e.eval subject = (e.answer subject).value) ∧
      (e.items = [] ∨ ∀ level, e.HasLevel level →
        ∃ k, IsLeast {k | Level.stopsAfter (Level.termsOn subject level) k = true} k ∧
          evaluate ⟨level⟩ subject =
            ⟨((Level.termsOn subject level).take (k + 1)).flatMap fun t => t.answer.calls,
              .ok (Level.running (Level.termsOn subject level) k)⟩) ∧
      (e.calls subject).Sublist e.operands := by
  refine ⟨?_, ?_, ?_⟩
  · have hevaluate : e.evaluate subject = ofAnswer (e.answer subject) := by
      obtain hempty | ⟨source, helaborates⟩ := h.elaborates
      · rw [evaluate, answer, hempty]
        rfl
      · exact (answered_of_elaborates helaborates : Answered subject .expression e.items).2
    rw [calls, eval, hevaluate]
    exact ⟨rfl, rfl⟩
  · refine h.level_elaborates.imp_right fun hlevels level hlevel => ?_
    obtain ⟨source, helaborates⟩ := hlevels level hlevel
    obtain ⟨hterms, hevaluate⟩ : Answered subject .expression level :=
      answered_of_elaborates helaborates
    exact ⟨_, Level.isLeast_lastAsked hterms, hevaluate⟩
  · exact e.calls_sublist subject

/-- An expression with a group that stops early, and that stops early itself. -/
def stopping : Expression Builtin where
  items :=
    [.operand (.fileType "d" (some .dir)), .operator .and,
      .group [.operand (.fileType "f" (some .file)), .operator .or,
        .operand (.newer "2024-02-29" (some ⟨1709164800, 0⟩))],
      .operator .or, .operator .not, .operand (.fileType "l" (some .symlink)),
      .operator .or, .operand (.fileType "d" (some .dir))]

theorem evaluate_eq_answer_stopping :
    Registry.builtins.parse "type=d && (type=f || newer=2024-02-29) || !type=l || type=d" =
        .ok stopping ∧
      stopping.calls { fileType := some .file } =
        [.fileType "d" (some .dir), .fileType "f" (some .file), .fileType "l" (some .symlink)] ∧
      stopping.eval { fileType := some .file } = true := by
  have hparse :
      Registry.builtins.parse "type=d && (type=f || newer=2024-02-29) || !type=l || type=d" =
        .ok stopping := by rfl
  obtain ⟨⟨hcalls, heval⟩, -⟩ :=
    Built.evaluate_eq_answer (.parse hparse) { fileType := some .file }
  rw [hcalls, heval]
  exact ⟨hparse, rfl, rfl⟩

end Expression

end FileSieve
