import FileSieve.Builtin
import FileSieve.Proofs.Expression.Built
import FileSieve.Proofs.Expression.Evaluation

/-!
# The value of an expression

Evaluation combines values strictly from left to right and stops at the first disjunction that
holds.  What that comes to can be said without following the evaluation: split a level at its
disjunctions into groups of conjoined terms; the level holds if all terms of the first group hold,
or if the first term of some later group does.  The terms after the first one of a later group have
no influence at all, since they are reached only if the level is false before them.

`Level.value` states this rule for a level whose terms are truth values, and `Expression.value`
applies it at every depth, from the inside out.  The main result `Built.evaluate_eq_value` says that
the evaluation of a built expression comes to this value on every subject, and so ends without a
fault.  `Evaluation.Valued` is the invariant behind it, one statement for each kind of phrase.
-/

namespace FileSieve

open Grammar Evaluation

variable {α β ρ : Type}

/-! ## Values at every depth -/

namespace Item

/-- Whether the item is the given operator. -/
def isOperator (op : Operator) : Item α → Bool
  | .operator op' => op' == op
  | _ => false

mutual

/-- The item with one value in the place of the term: what `leaf` makes of an operand, and what
`node` makes of the values in a group. -/
def fold (leaf : α → β) (node : List (Item β) → β) : Item α → Item β
  | .operator op => .operator op
  | .operand a => .operand (leaf a)
  | .group items => .operand (node (foldAll leaf node items))

/-- The items of a level with one value in the place of each term. -/
def foldAll (leaf : α → β) (node : List (Item β) → β) : List (Item α) → List (Item β)
  | [] => []
  | item :: rest => item.fold leaf node :: foldAll leaf node rest

end

lemma foldAll_append (leaf : α → β) (node : List (Item β) → β) (items rest : List (Item α)) :
    foldAll leaf node (items ++ rest) = foldAll leaf node items ++ foldAll leaf node rest := by
  induction items with
  | nil => rfl
  | cons item items ih => simp [foldAll, ih]

end Item

namespace Level

/-- The value of a term, which is negated if a negation stands directly before it. -/
def termValue : List (Item Bool) → Bool
  | [.operand v] => v
  | [.operator .not, .operand v] => !v
  | _ => false

/-- The values of the terms of a level, in the groups that its disjunctions separate. -/
def groups (level : List (Item Bool)) : List (List Bool) :=
  (level.splitOnP (Item.isOperator .or)).map fun group =>
    (group.splitOnP (Item.isOperator .and)).map termValue

/-- The value of a level: all terms of its first group hold, or the first term of a later group
does. -/
def value (level : List (Item Bool)) : Bool :=
  match groups level with
  | [] => false
  | first :: later => first.all id || later.any fun group => group.headD false

end Level

section

variable [Operand α ρ]

/-- The items of a level, with the truth value that each term has on a subject in its place. -/
def Item.truthValues (subject : Subject) (items : List (Item α)) : List (Item Bool) :=
  foldAll (Operand.eval · subject) Level.value items

lemma Item.truthValues_append (subject : Subject) (items rest : List (Item α)) :
    truthValues subject (items ++ rest) = truthValues subject items ++ truthValues subject rest :=
  foldAll_append _ _ items rest

lemma Item.truthValues_operator (subject : Subject) (op : Operator) (items : List (Item α)) :
    truthValues subject (.operator op :: items) = .operator op :: truthValues subject items := rfl

/-- The value of an expression on a subject; the empty expression is false. -/
def Expression.value (e : Expression α) (subject : Subject) : Bool :=
  if e.isEmpty then false else Level.value (Item.truthValues subject e.items)

end

/-! ## The groups of a level -/

/-- What does not contain a separator stays with whatever comes before the first one. -/
lemma splitOnP_append {p : β → Bool} {items : List β} (h : ∀ x ∈ items, p x = false)
    (rest : List β) :
    (items ++ rest).splitOnP p = (rest.splitOnP p).modifyHead (items ++ ·) := by
  induction items with
  | nil =>
    change rest.splitOnP p = (rest.splitOnP p).modifyHead id
    rw [List.modifyHead_id, id_eq]
  | cons x items ih =>
    obtain ⟨hx, hitems⟩ := List.forall_mem_cons.mp h
    rw [List.cons_append, List.splitOnP_cons_eq_if_modifyHead, if_neg (by simp [hx]), ih hitems,
      List.modifyHead_modifyHead]
    rfl

namespace Level

section

variable {term : List (Item Bool)} (hterm : ∀ x ∈ term, x.isBinary = false)

include hterm

lemma isOperator_eq_false {op : Operator} (hop : op.isBinary = true) :
    ∀ x ∈ term, x.isOperator op = false := by
  intro x hx
  have := hterm x hx
  cases x with
  | operator op' =>
    rw [Item.isOperator, beq_eq_false_iff_ne]
    rintro rfl
    simp [Item.isBinary, hop] at this
  | operand | group => rfl

lemma groups_term : groups term = [[termValue term]] := by
  rw [groups, List.splitOnP_eq_singleton (isOperator_eq_false hterm rfl), List.map_singleton,
    List.splitOnP_eq_singleton (isOperator_eq_false hterm rfl), List.map_singleton]

lemma groups_or (rest : List (Item Bool)) :
    groups (term ++ .operator .or :: rest) = [termValue term] :: groups rest := by
  have hsplit := List.splitOnP_append_cons_of_forall_mem (isOperator_eq_false hterm rfl)
    (.operator .or) (by rfl : Item.isOperator .or (.operator .or : Item Bool) = true) rest
  rw [groups, hsplit, List.map_cons,
    List.splitOnP_eq_singleton (isOperator_eq_false hterm rfl), List.map_singleton]
  rfl

lemma groups_and (rest : List (Item Bool)) :
    groups (term ++ .operator .and :: rest) = (groups rest).modifyHead (termValue term :: ·) := by
  have hor : ∀ x ∈ term ++ [.operator .and], x.isOperator .or = false := by
    intro x hx
    rw [List.mem_append, List.mem_singleton] at hx
    obtain hx | rfl := hx
    · exact isOperator_eq_false hterm rfl x hx
    · rfl
  have hsplit := splitOnP_append hor rest
  rw [List.append_assoc, List.singleton_append] at hsplit
  rw [groups, groups, hsplit]
  cases rest.splitOnP (Item.isOperator .or) with
  | nil => rfl
  | cons group later =>
    have hand := List.splitOnP_append_cons_of_forall_mem (isOperator_eq_false hterm rfl)
      (.operator .and) (by rfl : Item.isOperator .and (.operator .and : Item Bool) = true) group
    simp [hand]

end

end Level

/-! ## Evaluation and value -/

namespace Evaluation

open Item Level

variable [Operand α ρ]

/-- What a phrase contributes to the evaluation of its level, and to the value of the level.  A tail
continues the first group of the level and adds later ones, whatever term stands before it. -/
def Valued (subject : Subject) : Phrase → List (Item α) → Prop
  | .primary, level => ∃ x calls v, level = [x] ∧ x.isTerm = true ∧
      ofItem subject x = ⟨calls, .ok v⟩ ∧ truthValues subject [x] = [.operand v]
  | .term, level => ∃ calls v, Yields subject level calls v ∧
      (∀ x ∈ truthValues subject level, x.isBinary = false) ∧
      termValue (truthValues subject level) = v
  | .tail, level => ∃ first later,
      (∀ term : List (Item Bool), (∀ x ∈ term, x.isBinary = false) →
        groups (term ++ truthValues subject level) = (termValue term :: first) :: later) ∧
      ∀ v, (ofItems subject { values := [v] } level).outcome =
        .ok ((v && first.all id) || later.any fun group => group.headD false)
  | .expression, level => level ≠ [] ∧
      (ofItems subject {} level).outcome = .ok (Level.value (truthValues subject level))

variable {subject : Subject} {level after : List (Item α)}

lemma Valued.group (h : Valued subject .expression level) :
    Valued subject .primary [.group level] := by
  obtain ⟨-, h⟩ := h
  refine ⟨_, (ofItems subject {} level).calls, Level.value (truthValues subject level), rfl, rfl,
    ?_, rfl⟩
  rw [ofItem, ← h]

lemma Valued.plain (h : Valued subject .primary level) : Valued subject .term level := by
  obtain ⟨x, calls, v, rfl, hx, heval, hvalue⟩ := h
  refine ⟨calls, v, .plain hx heval, ?_, ?_⟩
  · simp [hvalue, Item.isBinary]
  · rw [hvalue]
    rfl

lemma Valued.negated (h : Valued subject .primary level) :
    Valued subject .term (.operator .not :: level) := by
  obtain ⟨x, calls, v, rfl, hx, heval, hvalue⟩ := h
  have hvalues : truthValues subject [.operator .not, x] = [.operator .not, .operand v] := by
    rw [truthValues_operator, hvalue]
  refine ⟨calls, !v, .negated hx heval, ?_, ?_⟩
  · simp [hvalues, Item.isBinary, Operator.isBinary]
  · rw [hvalues]
    rfl

lemma valued_done : Valued subject .tail ([] : List (Item α)) := by
  refine ⟨[], [], ?_, ?_⟩
  · intro term hterm
    simpa [truthValues, foldAll] using groups_term hterm
  · intro v
    simp [ofItems, Pending.result]

/-- A conjunction continues the first group. -/
lemma Valued.and (h : Valued subject .term level) (hrest : Valued subject .tail after) :
    Valued subject .tail (.operator .and :: (level ++ after)) := by
  obtain ⟨calls, v, hyields, hlevel, rfl⟩ := h
  obtain ⟨first, later, hgroups, heval⟩ := hrest
  refine ⟨termValue (truthValues subject level) :: first, later, ?_, ?_⟩
  · intro term hterm
    rw [truthValues_operator, truthValues_append, groups_and hterm, hgroups _ hlevel,
      List.modifyHead_cons]
  · intro r
    rw [ofItems_and r hyields, after_outcome, heval]
    simp [Bool.and_assoc]

/-- A disjunction begins a later group. -/
lemma Valued.or (h : Valued subject .term level) (hrest : Valued subject .tail after) :
    Valued subject .tail (.operator .or :: (level ++ after)) := by
  obtain ⟨calls, v, hyields, hlevel, rfl⟩ := h
  obtain ⟨first, later, hgroups, heval⟩ := hrest
  refine ⟨[], (termValue (truthValues subject level) :: first) :: later, ?_, ?_⟩
  · intro term hterm
    rw [truthValues_operator, truthValues_append, groups_or hterm, hgroups _ hlevel]
  · intro r
    cases r with
    | true =>
      rw [ofItems_or_true]
      rfl
    | false =>
      rw [ofItems_or_false hyields]
      split
      · next htrue => simp [htrue]
      · next hfalse => simp [hfalse, heval]

lemma Valued.expression (h : Valued subject .term level) (hrest : Valued subject .tail after) :
    Valued subject .expression (level ++ after) := by
  obtain ⟨calls, v, hyields, hlevel, rfl⟩ := h
  obtain ⟨first, later, hgroups, heval⟩ := hrest
  refine ⟨?_, ?_⟩
  · simp [hyields.ne_nil]
  · rw [ofItems_first hyields, after_outcome, heval, Level.value, truthValues_append,
      hgroups _ hlevel]
    rfl

lemma valued_of_elaborates {p : Phrase} {source level : List (Item α)}
    (h : Elaborates PreparesTo p source level) : Valued subject p level := by
  induction h with
  | unit h =>
    cases h
    exact ⟨_, _, _, rfl, rfl, by rw [ofItem], rfl⟩
  | brackets _ ih => exact ih.group
  | plain _ ih => exact ih.plain
  | negated _ ih => exact ih.negated
  | done => exact valued_done
  | @more op _ _ _ _ hop _ _ ih ihrest =>
    cases op with
    | and => exact ih.and ihrest
    | or => exact ih.or ihrest
    | not | openBracket | closeBracket => simp [Operator.isBinary] at hop
  | expression _ _ ih ihrest => exact ih.expression ihrest

end Evaluation

namespace Expression

/-- **Evaluation comes to the value.**  On every subject the evaluation of a built expression ends
without a fault, in the value of the expression. -/
theorem Built.evaluate_eq_value [Operand α ρ] {e : Expression α} (h : e.Built)
    (subject : Subject) :
    (e.evaluate subject).outcome = .ok (e.value subject) ∧ e.eval subject = e.value subject := by
  have hevaluate : (e.evaluate subject).outcome = .ok (e.value subject) := by
    obtain hempty | ⟨source, helaborates⟩ := h.elaborates
    · simp [evaluate, value, isEmpty, hempty, ofItems, Pending.result]
    · obtain ⟨hne, hvalue⟩ : Valued subject .expression e.items := valued_of_elaborates helaborates
      have hnonempty : e.isEmpty = false := by simpa [isEmpty] using hne
      rw [evaluate, hvalue, value, hnonempty]
      rfl
  refine ⟨hevaluate, ?_⟩
  rw [eval, hevaluate]

/-- An expression with a later group, which holds of a file although its second term does not. -/
def laterGroup : Expression Builtin where
  items :=
    [.operand (.fileType "d" (some .dir)), .operator .or,
      .operand (.fileType "f" (some .file)), .operator .and,
      .operator .not,
      .group [.operand (.fileType "l" (some .symlink)), .operator .or,
        .operand (.fileType "f" (some .file))]]

theorem evaluate_laterGroup :
    Registry.builtins.parse "type=d || type=f && !(type=l || type=f)" = .ok laterGroup ∧
      (laterGroup.evaluate { fileType := some .file }).outcome = .ok true ∧
      laterGroup.eval { fileType := some .file } = true := by
  have hparse : Registry.builtins.parse "type=d || type=f && !(type=l || type=f)" =
      .ok laterGroup := by rfl
  have hvalue : laterGroup.value { fileType := some .file } = true := by decide
  have h := Built.evaluate_eq_value (.parse hparse) { fileType := some .file }
  rw [hvalue] at h
  exact ⟨hparse, h⟩

end Expression

end FileSieve
