import Mathlib.Data.List.Chain
import FileSieve.Proofs.Expression.Brackets

/-!
# The first event decides

Building reports one error, whatever is wrong with its items.  This file says which: the error of the
first event of one reading from left to right.  What an event is does not mention the scan of
`Build.place`.  It depends on an item and on what stands before it on its level (`Build.Refuses`), or
on the outermost level at the end of the input (`Build.Unfinished`), and what stands on a level is
told by the brackets of the input alone (`Build.Placed`, `Build.Current`).

Some faults show at the item that commits them, others only when their level ends: two terms next to
each other are admitted until then.  This is why an early fault may be overtaken by a later one, and
one of an outer level by one of an inner level.  The look at the previous item leaves a level
`Build.Orderly`, and on such a level neighbouring terms and an operator at the end are all that can
still be wrong (`Build.alternates_iff`).

The scan is compared with the events step by step.  An item is refused for the reason that the event
names or it makes a move (`Build.step_of_refuses`, `Build.refuses_or_moves`); the stack holds the
items of the level under way (`Build.stands_of_run`), which are uniquely determined
(`Build.Current.unique`).  `Expression.build_firstEvent` is the main result.
-/

namespace FileSieve

variable {α ρ : Type}

/-- Whether the operator has to follow a term. -/
def Operator.followsTerm : Operator → Bool
  | .and => true
  | .or => true
  | .closeBracket => true
  | _ => false

namespace Build

/-! ## Events -/

/-- Two terms stand next to each other on the level. -/
def Neighbours (level : List (Item α)) : Prop :=
  ∃ x y, [x, y] <:+: level ∧ x.isTerm = true ∧ y.isTerm = true

/-- The level may not be the whole of an expression: terms stand next to each other, or it ends with
an operator. -/
def Unfinished (level : List (Item α)) : Prop :=
  Neighbours level ∨ ∃ x, level.getLast? = some x ∧ x.isTerm = false

section Events

variable [Operand α ρ]

/-- Why an item may not follow on a level on which the given items have been placed. -/
inductive Refuses (level : List (Item α)) : Item α → ExpressionError ρ → Prop
  /-- An operand refuses its value. -/
  | operand {a : α} {reason : ρ} (h : Operand.prepare a = .error reason) :
      Refuses level (.operand a) (.operand reason)
  /-- A ready-made group has no items. -/
  | emptyGroup : Refuses level (.group []) (.grammar (.missingLeftOperand .closeBracket))
  /-- A connective or a closing bracket comes first on its level. -/
  | nothingBefore {op : Operator} (hop : op.followsTerm = true) (h : level = []) :
      Refuses level (.operator op) (.grammar (.missingLeftOperand op))
  /-- A connective or a closing bracket follows a connective or a negation. -/
  | operatorBefore {op : Operator} {previous : Item α} (hop : op.followsTerm = true)
      (hlast : level.getLast? = some previous)
      (h : previous.isBinary = true ∨ previous.isNegation = true) :
      Refuses level (.operator op) (.grammar (.missingOperand op))
  /-- A negation follows something other than a connective. -/
  | negation {previous : Item α} (hlast : level.getLast? = some previous)
      (h : previous.isBinary = false) :
      Refuses level (.operator .not) (.grammar (.misplacedNegation previous.text))
  /-- An opening bracket follows a term. -/
  | openBracket {previous : Item α} (hlast : level.getLast? = some previous)
      (h : previous.isTerm = true) :
      Refuses level (.operator .openBracket) (.grammar .missingOperator)
  /-- A closing bracket follows a term, but terms stand next to each other inside. -/
  | closeBracket {previous : Item α} (hlast : level.getLast? = some previous)
      (h : previous.isTerm = true) (hneighbours : Neighbours level) :
      Refuses level (.operator .closeBracket)
        (.grammar (.incompleteExpression (Item.levelText level)))

/-- The items that stand on a level after a part of the input in which all brackets are paired.  The
operands have been prepared, and what stood between brackets is a group. -/
inductive Placed : (source level : List (Item α)) → Prop
  | nil : Placed [] []
  | operand {source level : List (Item α)} {a b : α} (h : Placed source level)
      (hprepare : Operand.prepare a = .ok b) :
      Placed (source ++ [.operand a]) (level ++ [.operand b])
  | group {source level : List (Item α)} (h : Placed source level) (inner : List (Item α)) :
      Placed (source ++ [.group inner]) (level ++ [.group inner])
  | operator {source level : List (Item α)} {op : Operator} (h : Placed source level)
      (hop : op.isBinary = true ∨ op = .not) :
      Placed (source ++ [.operator op]) (level ++ [.operator op])
  | brackets {source level inner items : List (Item α)} (h : Placed source level)
      (hinner : Placed inner items) :
      Placed (source ++ .operator .openBracket :: (inner ++ [.operator .closeBracket]))
        (level ++ [.group items])

/-- The items that stand on the level under way after a front part of the input: the outermost level,
or the one that the last unpaired bracket has opened. -/
inductive Current : (front level : List (Item α)) → Prop
  | outermost {source level : List (Item α)} (h : Placed source level) : Current source level
  | inside {source level : List (Item α)} (before : List (Item α)) (h : Placed source level) :
      Current (before ++ .operator .openBracket :: source) level

/-- What goes wrong at a position of the input, which is an item or, after all items, the end. -/
inductive EventAt (items : List (Item α)) (n : Nat) : ExpressionError ρ → Prop
  | item {front rest level : List (Item α)} {x : Item α} {e : ExpressionError ρ}
      (hitems : items = front ++ x :: rest) (hn : front.length = n) (hlevel : Current front level)
      (h : Refuses level x e) : EventAt items n e
  | finish {level : List (Item α)} (hn : items.length = n) (hlevel : Current items level)
      (h : Unfinished level) :
      EventAt items n (.grammar (.incompleteExpression (Item.levelText level)))

/-- What goes wrong at a position of the input, where nothing goes wrong before. -/
def FirstEvent (items : List (Item α)) (n : Nat) (e : ExpressionError ρ) : Prop :=
  EventAt items n e ∧ ∀ m < n, ∀ e', ¬ EventAt items m e'

end Events

/-! ## Levels that the look at the previous item leaves -/

variable {x y : Item α} {items level source front rest : List (Item α)}

lemma neighbours_cons_cons :
    Neighbours (x :: y :: items) ↔
      (x.isTerm = true ∧ y.isTerm = true) ∨ Neighbours (y :: items) := by
  constructor
  · rintro ⟨a, b, hinfix, ha, hb⟩
    rcases List.infix_cons_iff.mp hinfix with hprefix | hinfix
    · obtain ⟨rfl, htail⟩ := List.cons_prefix_cons.mp hprefix
      obtain ⟨rfl, -⟩ := List.cons_prefix_cons.mp htail
      exact .inl ⟨ha, hb⟩
    · exact .inr ⟨a, b, hinfix, ha, hb⟩
  · rintro (⟨hx, hy⟩ | ⟨a, b, hinfix, ha, hb⟩)
    · exact ⟨x, y, ⟨[], items, rfl⟩, hx, hy⟩
    · exact ⟨a, b, hinfix.trans (List.suffix_cons x _).isInfix, ha, hb⟩

lemma not_neighbours_singleton : ¬ Neighbours [x] := by
  rintro ⟨a, b, hinfix, -, -⟩
  have hlength := hinfix.length_le
  simp at hlength

lemma neighbours_cons_of_not_isTerm (hx : x.isTerm = false) :
    Neighbours (x :: items) ↔ Neighbours items := by
  cases items with
  | nil =>
    have hnil : ¬ Neighbours ([] : List (Item α)) := by
      rintro ⟨a, b, hinfix, -, -⟩
      have hlength := hinfix.length_le
      simp at hlength
    simp [not_neighbours_singleton, hnil]
  | cons y items => simp [neighbours_cons_cons, hx]

/-- What the look at the previous item admits after it: a term after anything, a connective after a
term, and a negation after a connective. -/
def Follows (previous x : Item α) : Prop :=
  x.isTerm = true ∨ (x.isBinary = true ∧ previous.isTerm = true) ∨
    (x.isNegation = true ∧ previous.isBinary = true)

/-- Each item of the level was admitted after the one before it.  A level begins as if it went on
after a connective. -/
def Orderly (level : List (Item α)) : Prop :=
  List.IsChain Follows (.operator .and :: level)

/-- What is wrong with a level, beyond what the look at the previous item finds: terms next to each
other, or no term at its end. -/
lemma alternates_iff_of_isChain (h : List.IsChain Follows (x :: items)) :
    alternates (!x.isTerm) items = true ↔
      ¬ Neighbours (x :: items) ∧ ∃ y, (x :: items).getLast? = some y ∧ y.isTerm = true := by
  induction items generalizing x with
  | nil => simp [alternates, not_neighbours_singleton]
  | cons y items ih =>
    obtain ⟨hfollows, htail⟩ := List.isChain_cons_cons.mp h
    have htail := ih htail
    rw [List.getLast?_cons_cons]
    rcases hfollows with hy | ⟨hy, hx⟩ | ⟨hy, hx⟩
    · rw [hy, Bool.not_true] at htail
      cases hx : x.isTerm with
      | true =>
        have hbinary : y.isBinary = false := by
          cases y <;> simp_all [Item.isTerm, Item.isBinary]
        have hneighbours : Neighbours (x :: y :: items) := neighbours_cons_cons.mpr (.inl ⟨hx, hy⟩)
        simp [alternates, hbinary, hneighbours]
      | false =>
        rw [Bool.not_false, alternates_term hy, neighbours_cons_of_not_isTerm hx]
        exact htail
    · have hterm : y.isTerm = false := by
        cases y <;> simp_all [Item.isTerm, Item.isBinary]
      rw [hterm, Bool.not_false] at htail
      rw [hx, Bool.not_true, neighbours_cons_cons, hterm]
      simpa [alternates, hy] using htail
    · have hterm : y.isTerm = false := by
        cases y <;> simp_all [Item.isTerm, Item.isNegation]
      have hbefore : x.isTerm = false := by
        cases x <;> simp_all [Item.isTerm, Item.isBinary]
      rw [hterm, Bool.not_false] at htail
      rw [hbefore, Bool.not_false, neighbours_cons_of_not_isTerm hbefore]
      simpa [alternates, hy] using htail

/-- On an orderly level, neighbouring terms and an operator at the end are all that can be wrong. -/
lemma alternates_iff (h : Orderly level) :
    alternates true level = true ↔
      ¬ Neighbours level ∧ ∃ x, level.getLast? = some x ∧ x.isTerm = true := by
  have hchain := alternates_iff_of_isChain h
  rw [neighbours_cons_of_not_isTerm rfl] at hchain
  rw [show alternates true level = alternates (!Item.isTerm (.operator .and)) level from rfl, hchain]
  cases level with
  | nil => simp [Item.isTerm]
  | cons x items => rw [List.getLast?_cons_cons]

lemma Orderly.concat (h : Orderly level)
    (hx : Follows (level.getLast?.getD (.operator .and)) x) : Orderly (level ++ [x]) := by
  have hchain : List.IsChain Follows ((.operator .and :: level) ++ [x]) := by
    rw [List.isChain_append]
    refine ⟨h, List.isChain_singleton x, ?_⟩
    intro y hy z hz
    rw [List.getLast?_cons] at hy
    simp_all
  exact hchain

lemma kinds_of_isChain (h : List.IsChain Follows (x :: items)) (hy : y ∈ items) :
    y.isTerm = true ∨ y.isBinary = true ∨ y.isNegation = true := by
  induction items generalizing x with
  | nil => simp at hy
  | cons z items ih =>
    obtain ⟨hfollows, htail⟩ := List.isChain_cons_cons.mp h
    rcases List.mem_cons.mp hy with rfl | hy
    · rcases hfollows with hterm | ⟨hbinary, -⟩ | ⟨hnegation, -⟩
      · exact .inl hterm
      · exact .inr (.inl hbinary)
      · exact .inr (.inr hnegation)
    · exact ih htail hy

/-- An orderly level is empty, or it ends with a term, a connective or a negation. -/
lemma Orderly.cases_getLast? (h : Orderly level) :
    level = [] ∨ ∃ x, level.getLast? = some x ∧
      (x.isTerm = true ∨ x.isBinary = true ∨ x.isNegation = true) := by
  rcases List.eq_nil_or_concat level with rfl | ⟨init, x, rfl⟩
  · exact .inl rfl
  · right
    refine ⟨x, by simp, kinds_of_isChain h (by simp)⟩

/-! ## One item -/

variable [Operand α ρ] {s next : Stack α} {item : Item α} {e : ExpressionError ρ}

/-- An item is refused for the reason that the event names. -/
lemma step_of_refuses (h : Refuses s.level.reverse item e) (hlevel : Orderly s.level.reverse)
    (houter : item.isClosing = true → s.outer ≠ []) : step s item = .error e := by
  obtain ⟨level, outer⟩ := s
  cases h with
  | operand h => simp [step, refusal?, h]
  | emptyGroup => simp [step, refusal?]
  | @nothingBefore op hop h =>
    obtain rfl : level = [] := by simpa using h
    cases op with
    | and | or | closeBracket => simp [step, refusal?, operatorFault?, leftTermFault?]
    | not | openBracket => simp [Operator.followsTerm] at hop
  | @operatorBefore op previous hop hlast h =>
    have hterm : previous.isTerm = false := by
      cases previous <;> simp_all [Item.isTerm, Item.isBinary, Item.isNegation]
    rw [List.getLast?_reverse] at hlast
    cases op with
    | and | or | closeBracket =>
      simp [step, refusal?, operatorFault?, leftTermFault?, hlast, hterm]
    | not | openBracket => simp [Operator.followsTerm] at hop
  | negation hlast h =>
    rw [List.getLast?_reverse] at hlast
    simp [step, refusal?, operatorFault?, hlast, h]
  | @openBracket previous hlast h =>
    have hbinary : previous.isBinary = false := by
      cases previous <;> simp_all [Item.isTerm, Item.isBinary]
    rw [List.getLast?_reverse] at hlast
    simp [step, refusal?, operatorFault?, hlast, hbinary, Item.isNegation_of_isTerm h]
  | closeBracket hlast h hneighbours =>
    have halternates : alternates true level.reverse = false := by
      rw [Bool.eq_false_iff]
      intro halternates
      exact ((alternates_iff hlevel).mp halternates).1 hneighbours
    rw [List.getLast?_reverse] at hlast
    cases outer with
    | nil => exact absurd rfl (houter rfl)
    | cons around further =>
      simp [step, refusal?, operatorFault?, leftTermFault?, hlast, h, halternates, incomplete]

/-- Where a connective or a closing bracket is refused, if it is. -/
lemma exists_refuses_or_isTerm {op : Operator} {level : List (Item α)}
    (hop : op.followsTerm = true) (hlevel : Orderly level) :
    (∃ e : ExpressionError ρ, Refuses level (.operator op) e) ∨
      ∃ x, level.getLast? = some x ∧ x.isTerm = true := by
  rcases hlevel.cases_getLast? with hnil | ⟨x, hlast, hterm | hoperator⟩
  · exact .inl ⟨_, .nothingBefore hop hnil⟩
  · exact .inr ⟨x, hlast, hterm⟩
  · exact .inl ⟨_, .operatorBefore hop hlast hoperator⟩

/-- An item that is not refused makes a move. -/
lemma refuses_or_moves (item : Item α) (hlevel : Orderly s.level.reverse)
    (houter : item.isClosing = true → s.outer ≠ []) :
    (∃ e, Refuses s.level.reverse item e) ∨ ∃ next, Moves s item next := by
  cases item with
  | operand a =>
    cases hprepare : Operand.prepare a with
    | error reason => exact .inl ⟨_, .operand hprepare⟩
    | ok b => exact .inr ⟨_, .operand hprepare⟩
  | group inner =>
    by_cases hinner : inner = []
    · subst hinner
      exact .inl ⟨_, .emptyGroup⟩
    · exact .inr ⟨_, .group hinner⟩
  | operator op =>
    have hhead : s.level.reverse.getLast? = s.level.head? := List.getLast?_reverse
    cases op with
    | and | or =>
      refine (exists_refuses_or_isTerm rfl hlevel).imp_right ?_
      rintro ⟨x, hlast, hterm⟩
      exact ⟨_, .connective rfl ⟨x, hhead ▸ hlast, hterm⟩⟩
    | not =>
      rcases hlevel.cases_getLast? with hnil | ⟨x, hlast, -⟩
      · right
        refine ⟨_, .negation fun y hy => ?_⟩
        rw [← hhead, hnil] at hy
        cases hy
      · cases hbinary : x.isBinary with
        | false => exact .inl ⟨_, .negation hlast hbinary⟩
        | true =>
          right
          refine ⟨_, .negation fun y hy => ?_⟩
          rw [← hhead, hlast] at hy
          cases hy
          exact hbinary
    | openBracket =>
      rcases hlevel.cases_getLast? with hnil | ⟨x, hlast, hterm | hoperator⟩
      · right
        refine ⟨_, .openBracket fun y hy => ?_⟩
        rw [← hhead, hnil] at hy
        cases hy
      · exact .inl ⟨_, .openBracket hlast hterm⟩
      · right
        refine ⟨_, .openBracket fun y hy => ?_⟩
        rw [← hhead, hlast] at hy
        cases hy
        exact hoperator
    | closeBracket =>
      have hop : Operator.closeBracket.followsTerm = true := rfl
      rcases exists_refuses_or_isTerm hop hlevel with hrefuses | ⟨x, hlast, hterm⟩
      · exact .inl hrefuses
      by_cases hneighbours : Neighbours s.level.reverse
      · exact .inl ⟨_, .closeBracket hlast hterm hneighbours⟩
      · right
        have halternates := (alternates_iff hlevel).mpr ⟨hneighbours, x, hlast, hterm⟩
        obtain ⟨level, outer⟩ := s
        cases outer with
        | nil => exact absurd rfl (houter rfl)
        | cons around further =>
          have hmoves : Moves ⟨level.reverse.reverse, around :: further⟩ (.operator .closeBracket)
              ⟨.group level.reverse :: around, further⟩ := .closeBracket halternates
          rw [List.reverse_reverse] at hmoves
          exact ⟨_, hmoves⟩

/-! ## The items of the level under way -/

/-- A level as the scan leaves it after a part of the input. -/
structure Holds (source level : List (Item α)) : Prop where
  placed : Placed source level
  orderly : Orderly level

lemma holds_nil : Holds ([] : List (Item α)) [] :=
  ⟨.nil, List.isChain_singleton _⟩

/-- A closed level becomes a term of the level around it. -/
lemma Holds.brackets {inner : List (Item α)} (h : Holds source level) (hinner : Placed inner items) :
    Holds (source ++ .operator .openBracket :: (inner ++ [.operator .closeBracket]))
      (level ++ [.group items]) :=
  ⟨h.placed.brackets hinner, h.orderly.concat (.inl rfl)⟩

/-- What the levels of a stack hold after a front part of the input: each level around the current
one the part before the bracket that has interrupted it. -/
inductive Stands : Stack α → List (Item α) → Prop
  | outermost {level source : List (Item α)} (h : Holds source level.reverse) :
      Stands ⟨level, []⟩ source
  | nested {around before level source : List (Item α)} {outer : List (List (Item α))}
      (haround : Stands ⟨around, outer⟩ before) (h : Holds source level.reverse) :
      Stands ⟨level, around :: outer⟩ (before ++ .operator .openBracket :: source)

lemma Stands.current (h : Stands s front) : Current front s.level.reverse := by
  cases h with
  | outermost h => exact .outermost h.placed
  | nested haround h => exact .inside _ h.placed

lemma Stands.orderly (h : Stands s front) : Orderly s.level.reverse := by
  cases h with
  | outermost h => exact h.orderly
  | nested haround h => exact h.orderly

/-- What the current level takes up, the stack takes up. -/
lemma Stands.extend {level level' : List (Item α)} {outer : List (List (Item α))}
    (h : Stands ⟨level, outer⟩ front)
    (hlevel : ∀ source, Holds source level.reverse → Holds (source ++ items) level'.reverse) :
    Stands ⟨level', outer⟩ (front ++ items) := by
  cases h with
  | outermost h => exact .outermost (hlevel _ h)
  | nested haround h =>
    have hnested := Stands.nested haround (hlevel _ h)
    simpa using hnested

lemma Stands.push (h : Stands s front) (hx : Follows (s.level.head?.getD (.operator .and)) x)
    (hplaced : ∀ source level, Placed source level → Placed (source ++ [item]) (level ++ [x])) :
    Stands (s.push [x]) (front ++ [item]) := by
  obtain ⟨level, outer⟩ := s
  refine h.extend fun source hholds => ?_
  have hfollows : Follows (level.reverse.getLast?.getD (.operator .and)) x := by
    rw [List.getLast?_reverse]
    exact hx
  rw [List.reverse_append, List.reverse_reverse]
  exact ⟨hplaced _ _ hholds.placed, hholds.orderly.concat hfollows⟩

lemma Stands.moves (h : Stands s front) (hmoves : Moves s item next) :
    Stands next (front ++ [item]) := by
  cases hmoves with
  | operand hprepare => exact h.push (.inl rfl) fun _ _ hplaced => hplaced.operand hprepare
  | group _ => exact h.push (.inl rfl) fun _ _ hplaced => hplaced.group _
  | connective hop hterm =>
    obtain ⟨y, hhead, hy⟩ := hterm
    refine h.push (.inr (.inl ⟨hop, ?_⟩)) fun _ _ hplaced => hplaced.operator (.inl hop)
    rw [hhead]
    exact hy
  | negation hfree =>
    refine h.push (.inr (.inr ⟨rfl, ?_⟩)) fun _ _ hplaced => hplaced.operator (.inr rfl)
    cases hhead : s.level.head? with
    | none => rfl
    | some y => exact hfree y hhead
  | openBracket _ => exact .nested h holds_nil
  | @closeBracket level around outer _ =>
    cases h with
    | @nested _ before _ source _ haround h =>
      have hinner : Placed source level := by simpa using h.placed
      have hclosed : Stands ⟨.group level :: around, outer⟩
          (before ++ .operator .openBracket :: (source ++ [.operator .closeBracket])) := by
        refine haround.extend fun outside hholds => ?_
        simpa using hholds.brackets hinner
      simpa using hclosed

lemma Stands.run (h : Stands s front) (hrun : Build.run s items = .ok next) :
    Stands next (front ++ items) := by
  induction items generalizing s front with
  | nil =>
    cases hrun
    simpa using h
  | cons item items ih =>
    rw [run_cons, bind_eq_ok_iff] at hrun
    obtain ⟨following, hstep, hrest⟩ := hrun
    simpa using ih (h.moves (moves_of_step hstep)) hrest

/-- After a run from the start, the stack tells what stands on every level. -/
lemma stands_of_run (hrun : Build.run ⟨[], []⟩ front = .ok s) : Stands s front := by
  have hstart : Stands (⟨[], []⟩ : Stack α) [] := .outermost holds_nil
  simpa using hstart.run hrun

/-- The stack after an item that is taken in without a look at anything. -/
def Stack.put (s : Stack α) : Item α → Stack α
  | .operand a =>
    match Operand.prepare a with
    | .ok b => s.push [.operand b]
    | .error _ => s
  | .operator .openBracket => ⟨[], s.level :: s.outer⟩
  | .operator .closeBracket =>
    match s.outer with
    | [] => s
    | around :: further => ⟨.group s.level.reverse :: around, further⟩
  | x => s.push [x]

/-- What a part of the input with paired brackets puts onto a stack is what stands on its level. -/
lemma foldl_put_of_placed (h : Placed source level) (s : Stack α) :
    source.foldl Stack.put s = s.push level := by
  induction h generalizing s with
  | nil => rfl
  | operand _ hprepare ih =>
    rw [List.foldl_append, ih, ← Stack.push_push]
    simp [Stack.put, hprepare]
  | group _ inner ih =>
    rw [List.foldl_append, ih, ← Stack.push_push]
    rfl
  | @operator _ _ op _ hop ih =>
    rw [List.foldl_append, ih, ← Stack.push_push]
    cases op with
    | and | or | not => rfl
    | openBracket | closeBracket => simp [Operator.isBinary] at hop
  | brackets _ _ ih ihinner =>
    rw [List.foldl_append, ih, ← Stack.push_push, List.foldl_cons, List.foldl_append]
    simp [Stack.put, ihinner, Stack.push]

/-- There is one level under way. -/
lemma Current.unique {level' : List (Item α)} (h : Current front level)
    (h' : Current front level') : level = level' := by
  have hput : ∀ {level : List (Item α)}, Current front level →
      (front.foldl Stack.put ⟨[], []⟩).level.reverse = level := by
    intro level h
    cases h with
    | outermost h => simp [foldl_put_of_placed h, Stack.push]
    | inside before h => simp [foldl_put_of_placed h, Stack.push, Stack.put]
  rw [← hput h, hput h']

/-! ## Events and the scan -/

/-- An item of balanced input commits an event exactly if the scan refuses it. -/
lemma eventAt_iff_step (hbalanced : Item.Balanced 0 (front ++ item :: rest))
    (hrun : Build.run ⟨[], []⟩ front = .ok s) :
    EventAt (front ++ item :: rest) front.length e ↔ step s item = .error e := by
  have hstands := stands_of_run hrun
  have houter : item.isClosing = true → s.outer ≠ [] := outer_ne_nil_of_balanced hbalanced hrun
  constructor
  · intro h
    cases h with
    | @item front' rest' level x _ hitems hn hlevel h =>
      obtain ⟨rfl, htail⟩ := List.append_inj hitems hn.symm
      obtain ⟨rfl, rfl⟩ := List.cons.inj htail
      rw [hlevel.unique hstands.current] at h
      exact step_of_refuses h hstands.orderly houter
    | finish hn => simp at hn
  · intro hstep
    rcases refuses_or_moves item hstands.orderly houter with ⟨e', hrefuses⟩ | ⟨next, hmoves⟩
    · have hstep' := step_of_refuses hrefuses hstands.orderly houter
      rw [hstep, Except.error.injEq] at hstep'
      subst hstep'
      exact .item rfl rfl hstands.current hrefuses
    · rw [step_of_moves hmoves] at hstep
      contradiction

/-- What the scan has passed over is no event. -/
lemma not_eventAt_of_run (hbalanced : Item.Balanced 0 (front ++ rest))
    (hrun : Build.run ⟨[], []⟩ front = .ok s) {n : Nat} (hn : n < front.length)
    (e : ExpressionError ρ) : ¬ EventAt (front ++ rest) n e := by
  obtain ⟨before, x, after, rfl, rfl⟩ :
      ∃ before x after, front = before ++ x :: after ∧ before.length = n := by
    refine ⟨front.take n, front[n], front.drop (n + 1), ?_, ?_⟩
    · rw [List.getElem_cons_drop, List.take_append_drop]
    · rw [List.length_take]
      omega
  rw [run_append, bind_eq_ok_iff] at hrun
  obtain ⟨next, hbefore, hafter⟩ := hrun
  rw [run_cons, bind_eq_ok_iff] at hafter
  obtain ⟨following, hstep, -⟩ := hafter
  rw [List.append_assoc, List.cons_append] at hbalanced ⊢
  rw [eventAt_iff_step hbalanced hbefore, hstep]
  simp

omit [Operand α ρ] in
lemma unfinished_iff (hne : level ≠ []) (h : Orderly level) :
    Unfinished level ↔ alternates true level = false := by
  have hlast := List.getLast?_eq_some_getLast hne
  have halternates := alternates_iff h
  rw [← Bool.not_eq_true, halternates, Unfinished, not_and_or, not_not]
  simp [hlast]

/-- Items leave something on their level. -/
lemma Placed.ne_nil (h : Placed source level) (hne : source ≠ []) : level ≠ [] := by
  cases h with
  | nil => contradiction
  | operand | group | operator | brackets => simp

/-- The end of balanced input is an event exactly if the scan may not end there. -/
lemma eventAt_iff_close (hne : items ≠ []) (hbalanced : Item.Balanced 0 items)
    (hrun : Build.run ⟨[], []⟩ items = .ok s) :
    EventAt items items.length e ↔ close s = .error e := by
  have hstands := stands_of_run hrun
  have houter := outer_eq_nil_of_balanced hbalanced hrun
  obtain ⟨level, outer⟩ := s
  subst houter
  have hlevel : level.reverse ≠ [] := by
    cases hstands with
    | outermost h => exact h.placed.ne_nil hne
  have hunfinished := unfinished_iff hlevel hstands.orderly
  have hclose : close ⟨level, []⟩ = if alternates true level.reverse then .ok level.reverse
      else .error (.grammar (incomplete level.reverse)) := rfl
  constructor
  · intro h
    cases h with
    | item hitems hn => simp [hitems] at hn
    | @finish level' _ hlevel' h =>
      rw [hlevel'.unique hstands.current] at h ⊢
      simp [hclose, hunfinished.mp h, incomplete]
  · intro h
    rw [hclose] at h
    split at h
    · contradiction
    · next halternates =>
      cases h
      exact .finish rfl hstands.current (hunfinished.mpr (by simpa using halternates))

lemma firstEvent_of_step (hbalanced : Item.Balanced 0 (front ++ item :: rest))
    (hrun : Build.run ⟨[], []⟩ front = .ok s) (hstep : step s item = .error e) :
    FirstEvent (front ++ item :: rest) front.length e :=
  ⟨(eventAt_iff_step hbalanced hrun).mpr hstep,
    fun _ hm e' => not_eventAt_of_run hbalanced hrun hm e'⟩

lemma firstEvent_of_close (hne : items ≠ []) (hbalanced : Item.Balanced 0 items)
    (hrun : Build.run ⟨[], []⟩ items = .ok s) (hclose : close s = .error e) :
    FirstEvent items items.length e := by
  refine ⟨(eventAt_iff_close hne hbalanced hrun).mpr hclose, fun m hm e' => ?_⟩
  have hpassed : Item.Balanced 0 (items ++ []) := by simpa using hbalanced
  simpa using not_eventAt_of_run hpassed hrun hm e'

/-- The scan of balanced input fails at the first event, and no other error is an event there. -/
lemma exists_firstEvent (hne : items ≠ []) (hbalanced : Item.Balanced 0 items)
    (h : (place [] [] items).result = .error e) :
    ∃ n, FirstEvent items n e ∧ ∀ e', EventAt items n e' → e' = e := by
  rcases place_eq_error_iff.mp h with ⟨front, item, rest, s, rfl, hrun, hstep⟩ | ⟨s, hrun, hclose⟩
  · refine ⟨front.length, firstEvent_of_step hbalanced hrun hstep, fun e' he' => ?_⟩
    have hstep' := (eventAt_iff_step hbalanced hrun).mp he'
    rw [hstep, Except.error.injEq] at hstep'
    exact hstep'.symm
  · refine ⟨items.length, firstEvent_of_close hne hbalanced hrun hclose, fun e' he' => ?_⟩
    have hclose' := (eventAt_iff_close hne hbalanced hrun).mp he'
    rw [hclose, Except.error.injEq] at hclose'
    exact hclose'.symm

lemma EventAt.le_length {n : Nat} (h : EventAt items n e) : n ≤ items.length := by
  cases h with
  | item hitems hn =>
    rw [hitems, List.length_append, List.length_cons]
    omega
  | finish hn => omega

/-- Input that the scan accepts has no events. -/
lemma not_eventAt_of_place (hne : items ≠ []) (hbalanced : Item.Balanced 0 items)
    (h : (place [] [] items).result = .ok level) (n : Nat) (e : ExpressionError ρ) :
    ¬ EventAt items n e := by
  rw [place_result ⟨[], []⟩ items, bind_eq_ok_iff] at h
  obtain ⟨s, hrun, hclose⟩ := h
  intro hevent
  rcases Nat.lt_or_eq_of_le hevent.le_length with hn | rfl
  · have hpassed : Item.Balanced 0 (items ++ []) := by simpa using hbalanced
    have hnone := not_eventAt_of_run hpassed hrun hn e
    rw [List.append_nil] at hnone
    exact hnone hevent
  · rw [eventAt_iff_close hne hbalanced hrun, hclose] at hevent
    contradiction

/-- The scan fails with an error exactly if that is the first event. -/
lemma place_eq_error_iff_firstEvent (hne : items ≠ []) (hbalanced : Item.Balanced 0 items) :
    (place [] [] items).result = .error e ↔ ∃ n, FirstEvent items n e := by
  constructor
  · intro h
    obtain ⟨n, hfirst, -⟩ := exists_firstEvent hne hbalanced h
    exact ⟨n, hfirst⟩
  · rintro ⟨n, hevent, hbefore⟩
    cases hresult : (place [] [] items).result with
    | ok level => exact absurd hevent (not_eventAt_of_place hne hbalanced hresult n e)
    | error e' =>
      obtain ⟨m, ⟨hevent', hbefore'⟩, hunique⟩ := exists_firstEvent hne hbalanced hresult
      have hn : n = m := by
        rcases Nat.lt_trichotomy n m with hlt | heq | hlt
        · exact absurd hevent (hbefore' n hlt e)
        · exact heq
        · exact absurd hevent' (hbefore m hlt e')
      subst hn
      rw [hunique e hevent]

end Build

namespace Expression

variable [Operand α ρ] {items : List (Item α)}

/-- **The first event decides.**  Building balanced items fails with an error if and only if that is
what goes wrong first, reading the items from left to right; if nothing goes wrong, building
succeeds. -/
theorem build_firstEvent (hne : items ≠ []) (hbalanced : Item.Balanced 0 items) :
    (∀ e, build items = .error e ↔ ∃ n, Build.FirstEvent items n e) ∧
    ((∃ x, build items = .ok x) ↔ ∀ n e, ¬ Build.EventAt items n e) := by
  have hbuild : build items = (Build.place [] [] items).result.map Expression.mk := by
    rw [build, Build.items_of_balanced hne hbalanced]
  constructor
  · intro e
    rw [hbuild, map_eq_error_iff, Build.place_eq_error_iff_firstEvent hne hbalanced]
  · constructor
    · rintro ⟨x, hx⟩
      rw [hbuild, map_eq_ok_iff] at hx
      obtain ⟨level, hlevel, -⟩ := hx
      exact Build.not_eventAt_of_place hne hbalanced hlevel
    · intro hnone
      cases hresult : (Build.place [] [] items).result with
      | ok level => exact ⟨⟨level⟩, by rw [hbuild, hresult]; rfl⟩
      | error e =>
        obtain ⟨n, hevent, -⟩ := (Build.place_eq_error_iff_firstEvent hne hbalanced).mp hresult
        exact absurd hevent (hnone n e)

/-- Terms next to each other on the outermost level, then again between brackets, and a doubled
connective after them. -/
def overtaken : List (Item Builtin) :=
  [.operand (.fileType "d" none), .operand (.fileType "f" none), .operator .and,
    .operator .openBracket, .operand (.fileType "l" none), .operand (.newer "2024-02-29" none),
    .operator .closeBracket, .operator .or, .operator .or]

/-- What stands between the brackets of `overtaken`, prepared. -/
def overtakenLevel : List (Item Builtin) :=
  [.operand (.fileType "l" (some .symlink)),
    .operand (.newer "2024-02-29" (some ⟨1709164800, 0⟩))]

/-- The fault between the brackets is the first to show. -/
theorem build_firstEvent_overtaken :
    overtaken ≠ [] ∧ Item.Balanced 0 overtaken ∧
      build overtaken =
        .error (.grammar (.incompleteExpression "[type=l newer=2024-02-29]")) ∧
      (∃ n, Build.FirstEvent overtaken n
        (.grammar (.incompleteExpression "[type=l newer=2024-02-29]"))) ∧
      ¬ ∃ x, build overtaken = .ok x := by
  have hne : overtaken ≠ [] := by simp [overtaken]
  have hbalanced : Item.Balanced 0 overtaken := (Build.balanced_iff 0 overtaken).mp (by rfl)
  have htext : Item.levelText overtakenLevel = "[type=l newer=2024-02-29]" := by decide +kernel
  have hbuild : build overtaken =
      .error (.grammar (.incompleteExpression "[type=l newer=2024-02-29]")) := by
    rw [← htext]
    rfl
  obtain ⟨herror, hok⟩ := build_firstEvent hne hbalanced
  have hfirst := (herror _).mp hbuild
  refine ⟨hne, hbalanced, hbuild, hfirst, ?_⟩
  obtain ⟨n, hevent, -⟩ := hfirst
  rw [hok]
  intro hnone
  exact hnone n _ hevent

end Expression

end FileSieve
