import FileSieve.Proofs.Expression.Grammar

/-!
# Building is elaboration

`Build.place` scans items from left to right and keeps the unfinished levels on a stack.  This file
proves that what it accepts and what it returns is exactly what the grammar says
(`Build.items_eq_ok_iff`), and concludes that building succeeds for exactly the sequences of items
that the grammar derives and whose operands prepare (`Expression.build_isOk_iff`).

The scan is first restated as a run over an explicit stack: `Build.step` takes in one item,
`Build.run` a sequence of them, and `Build.close` ends the input (`Build.place_result`).

* From the grammar to the scan, a phrase takes the stack to the same stack with the items that the
  phrase contributes on top, provided that the item on top admits the phrase (`run_of_elaborates`).
* From the scan to the grammar, every level is `Viable`: if it can still be completed, then it is
  as far as `Progress` says, which accounts for the input that the level has taken up.  The look at
  the previous item is needed only to keep a negation from following a negation; all else that
  could go wrong on a level is caught when the level is completed.
-/

namespace FileSieve

open Grammar

variable {α ρ : Type}

/-- The operand that an item is. -/
def Item.operand? : Item α → Option α
  | .operand a => some a
  | _ => none

namespace Build

/-! ## Terms and connectives that alternate -/

lemma alternates_operator {op : Operator} (hop : op.isBinary = true) (items : List (Item α)) :
    alternates false (.operator op :: items) = alternates true items := by
  simp [alternates, Item.isBinary, hop]

lemma alternates_negation (items : List (Item α)) :
    alternates true (.operator .not :: items) = alternates true items := by
  simp [alternates, Item.isNegation]

lemma alternates_term {x : Item α} (hx : x.isTerm = true) (items : List (Item α)) :
    alternates true (x :: items) = alternates false items := by
  simp [alternates, Item.isNegation_of_isTerm hx, hx]

/-- A level whose items alternate ends in a term. -/
lemma getLast?_isTerm_of_alternates {items : List (Item α)} (want : Bool)
    (h : alternates want items = true) :
    (items = [] ∧ want = false) ∨ ∃ x, items.getLast? = some x ∧ x.isTerm = true := by
  induction items generalizing want with
  | nil =>
    left
    simpa [alternates] using h
  | cons x rest ih =>
    right
    obtain ⟨next, hrest, hx⟩ : ∃ next, alternates next rest = true ∧
        (next = false → x.isTerm = true) := by
      cases want with
      | false =>
        simp only [alternates, Bool.and_eq_true] at h
        exact ⟨true, h.2, by simp⟩
      | true =>
        simp only [alternates] at h
        split at h
        · exact ⟨true, h, by simp⟩
        · simp only [Bool.and_eq_true] at h
          exact ⟨false, h.2, fun _ => h.1⟩
    rcases ih next hrest with ⟨rfl, rfl⟩ | ⟨y, hy, hterm⟩
    · exact ⟨x, rfl, hx rfl⟩
    · refine ⟨y, ?_, hterm⟩
      rw [List.getLast?_cons, hy]
      rfl

/-- What a phrase contributes to its level, as the check on the level sees it. -/
def Alternating : Phrase → List (Item α) → Prop
  | .primary, level => ∀ rest, alternates true (level ++ rest) = alternates false rest
  | .term, level => ∀ rest, alternates true (level ++ rest) = alternates false rest
  | .tail, level => alternates false level = true
  | .expression, level => alternates true level = true

lemma alternating_of_elaborates {unit : Item α → Item α → Prop}
    (hunit : ∀ x y, unit x y → y.isTerm = true) {p : Phrase} {items level : List (Item α)}
    (h : Elaborates unit p items level) : Alternating p level := by
  induction h with
  | unit h =>
    intro rest
    exact alternates_term (hunit _ _ h) rest
  | brackets _ _ =>
    intro rest
    exact alternates_term rfl rest
  | plain _ ih => exact ih
  | negated _ ih =>
    intro rest
    rw [List.cons_append, alternates_negation]
    exact ih rest
  | done => rfl
  | more hop _ _ ih ihrest =>
    rw [Alternating, alternates_operator hop, ih]
    exact ihrest
  | expression _ _ ih ihrest =>
    rw [Alternating, ih]
    exact ihrest

/-! ## The scan as a run over a stack -/

/-- The items placed so far, on the current level and on the levels around it, from the inside out;
all list the latest item first. -/
structure Stack (α : Type) where
  level : List (Item α) := []
  outer : List (List (Item α)) := []

/-- The stack with more items on its current level. -/
def Stack.push (items : List (Item α)) (s : Stack α) : Stack α :=
  { s with level := items.reverse ++ s.level }

lemma Stack.push_push (first second : List (Item α)) (s : Stack α) :
    (s.push first).push second = s.push (first ++ second) := by
  simp [push]

variable [Operand α ρ]

/-- The stack after one more item, or why the item is refused. -/
def step (s : Stack α) (item : Item α) : Except (ExpressionError ρ) (Stack α) :=
  match refusal? s.level.head? item with
  | some e => .error (.grammar e)
  | none =>
    match item with
    | .operand a =>
      match Operand.prepare a with
      | .error reason => .error (.operand reason)
      | .ok ready => .ok (s.push [.operand ready])
    | .operator .openBracket => .ok ⟨[], s.level :: s.outer⟩
    | .operator .closeBracket =>
      match s.outer with
      | [] => .error (.grammar .unbalancedBrackets)
      | around :: further =>
        if alternates true s.level.reverse then
          .ok ⟨.group s.level.reverse :: around, further⟩
        else .error (.grammar (incomplete s.level.reverse))
    | item => .ok (s.push [item])

/-- The stack after a sequence of items, or why one of them is refused. -/
def run (s : Stack α) (items : List (Item α)) : Except (ExpressionError ρ) (Stack α) :=
  items.foldlM step s

/-- The outermost level at the end of the input, or why the input may not end. -/
def close (s : Stack α) : Except (ExpressionError ρ) (List (Item α)) :=
  match s.outer with
  | [] =>
    if alternates true s.level.reverse then .ok s.level.reverse
    else .error (.grammar (incomplete s.level.reverse))
  | _ :: _ => .error (.grammar .unbalancedBrackets)

lemma run_nil (s : Stack α) : run s [] = .ok s := rfl

lemma run_cons (s : Stack α) (item : Item α) (items : List (Item α)) :
    run s (item :: items) = step s item >>= fun s => run s items := by
  rw [run, List.foldlM_cons]
  rfl

lemma run_append (s : Stack α) (first second : List (Item α)) :
    run s (first ++ second) = run s first >>= fun s => run s second := by
  rw [run, List.foldlM_append]
  rfl

lemma run_append_of_run {s next : Stack α} {first : List (Item α)} (h : run s first = .ok next)
    (second : List (Item α)) : run s (first ++ second) = run next second := by
  rw [run_append, h]
  rfl

/-- What the scan does with one item: it asks the item, if that is an operand, and goes on unless the
item is refused. -/
lemma place_cons (s : Stack α) (item : Item α) (items : List (Item α)) :
    place s.outer s.level (item :: items) =
      match step s item with
      | .error e => ⟨item.operand?.toList, .error e⟩
      | .ok next =>
        let rest := place next.outer next.level items
        ⟨item.operand?.toList ++ rest.prepared, rest.result⟩ := by
  obtain ⟨level, outer⟩ := s
  cases item with
  | operand a =>
    simp only [place, step, refusal?]
    cases Operand.prepare a <;> rfl
  | group inner =>
    simp only [place, step]
    cases refusal? level.head? (.group inner) <;> rfl
  | operator op =>
    cases op with
    | and | or | not | openBracket =>
      simp only [place, step]
      cases refusal? level.head? (.operator _) <;> rfl
    | closeBracket =>
      cases outer with
      | nil =>
        simp only [place, step]
        cases refusal? level.head? (.operator .closeBracket) <;> rfl
      | cons around further =>
        simp only [place, step]
        cases refusal? level.head? (.operator .closeBracket) with
        | some e => rfl
        | none => cases alternates true level.reverse <;> rfl

lemma place_result_cons (s : Stack α) (item : Item α) (items : List (Item α)) :
    (place s.outer s.level (item :: items)).result =
      step s item >>= fun next => (place next.outer next.level items).result := by
  rw [place_cons]
  cases step s item <;> rfl

/-- The scan runs over its input and then closes the level that is left. -/
lemma place_result (s : Stack α) (items : List (Item α)) :
    (place s.outer s.level items).result = run s items >>= close := by
  induction items generalizing s with
  | nil =>
    obtain ⟨level, outer⟩ := s
    cases outer with
    | nil =>
      rw [place]
      change _ = close ⟨level, []⟩
      rw [close]
      split <;> rfl
    | cons around further => rfl
  | cons item items ih =>
    rw [place_result_cons, run_cons]
    cases step s item with
    | error e => rfl
    | ok next => exact ih next

/-! ## What one item does -/

/-- The moves of the scan: what an item does to the stack where it is not refused. -/
inductive Moves : Stack α → Item α → Stack α → Prop
  | operand {s : Stack α} {a b : α} (h : Operand.prepare a = .ok b) :
      Moves s (.operand a) (s.push [.operand b])
  | group {s : Stack α} {inner : List (Item α)} (h : inner ≠ []) :
      Moves s (.group inner) (s.push [.group inner])
  | connective {s : Stack α} {op : Operator} (hop : op.isBinary = true)
      (h : ∃ x, s.level.head? = some x ∧ x.isTerm = true) :
      Moves s (.operator op) (s.push [.operator op])
  | negation {s : Stack α} (h : ∀ x ∈ s.level.head?, x.isBinary = true) :
      Moves s (.operator .not) (s.push [.operator .not])
  | openBracket {s : Stack α}
      (h : ∀ x ∈ s.level.head?, x.isBinary = true ∨ x.isNegation = true) :
      Moves s (.operator .openBracket) ⟨[], s.level :: s.outer⟩
  | closeBracket {level around : List (Item α)} {outer : List (List (Item α))}
      (h : alternates true level = true) :
      Moves ⟨level.reverse, around :: outer⟩ (.operator .closeBracket)
        ⟨.group level :: around, outer⟩

omit [Operand α ρ] in
lemma leftTermFault?_eq_none_iff {op : Operator} {previous : Option (Item α)} :
    leftTermFault? op previous = none ↔ ∃ x, previous = some x ∧ x.isTerm = true := by
  cases previous with
  | none => simp [leftTermFault?]
  | some x => simp [leftTermFault?]

lemma step_of_moves {s next : Stack α} {item : Item α} (h : Moves s item next) :
    step s item = .ok next := by
  cases h with
  | operand h => simp [step, refusal?, h]
  | @group _ inner h =>
    cases inner with
    | nil => contradiction
    | cons x rest => simp [step, refusal?]
  | @connective _ op hop h =>
    cases op with
    | and | or => simp [step, refusal?, operatorFault?, leftTermFault?_eq_none_iff.mpr h]
    | not | openBracket | closeBracket => simp [Operator.isBinary] at hop
  | negation h =>
    cases hhead : s.level.head? with
    | none => simp [step, refusal?, operatorFault?, hhead]
    | some x => simp [step, refusal?, operatorFault?, hhead, h x hhead]
  | openBracket h =>
    cases hhead : s.level.head? with
    | none => simp [step, refusal?, operatorFault?, hhead]
    | some x =>
      have hx : (x.isBinary || x.isNegation) = true := by simpa using h x hhead
      simp [step, refusal?, operatorFault?, hhead, hx]
  | @closeBracket level _ _ h =>
    have hlast : ∃ x, level.getLast? = some x ∧ x.isTerm = true := by
      simpa using getLast?_isTerm_of_alternates true h
    simp [step, refusal?, operatorFault?, leftTermFault?_eq_none_iff.mpr hlast, h]

lemma run_cons_of_moves {s next : Stack α} {item : Item α} (h : Moves s item next)
    (items : List (Item α)) : run s (item :: items) = run next items := by
  rw [run_cons, step_of_moves h]
  rfl

lemma moves_of_step {s next : Stack α} {item : Item α} (h : step s item = .ok next) :
    Moves s item next := by
  obtain ⟨level, outer⟩ := s
  have hrefusal : refusal? level.head? item = none := by
    cases hrefusal : refusal? level.head? item with
    | none => rfl
    | some e =>
      unfold step at h
      simp [hrefusal] at h
  cases item with
  | operand a =>
    simp only [step, hrefusal] at h
    cases hprepare : Operand.prepare a with
    | error reason =>
      rw [hprepare] at h
      contradiction
    | ok ready =>
      rw [hprepare] at h
      cases h
      exact .operand hprepare
  | group inner =>
    simp only [step, hrefusal] at h
    cases h
    apply Moves.group
    rintro rfl
    simp [refusal?] at hrefusal
  | operator op =>
    cases op with
    | and | or =>
      simp only [step, hrefusal] at h
      cases h
      exact .connective rfl (leftTermFault?_eq_none_iff.mp hrefusal)
    | not =>
      simp only [step, hrefusal] at h
      cases h
      apply Moves.negation
      intro x hx
      rw [Option.mem_def] at hx
      simpa [refusal?, operatorFault?, hx] using hrefusal
    | openBracket =>
      simp only [step, hrefusal] at h
      cases h
      apply Moves.openBracket
      intro x hx
      rw [Option.mem_def] at hx
      simp only [refusal?, operatorFault?, hx, ite_eq_left_iff, reduceCtorEq, imp_false,
        Decidable.not_not, Bool.or_eq_true] at hrefusal
      exact hrefusal
    | closeBracket =>
      cases outer with
      | nil => simp [step, hrefusal] at h
      | cons around further =>
        simp only [step, hrefusal] at h
        split at h
        · next halternates =>
          cases h
          have hmove : Moves ⟨level.reverse.reverse, around :: further⟩ (.operator .closeBracket)
              ⟨.group level.reverse :: around, further⟩ := .closeBracket halternates
          simpa using hmove
        · contradiction

/-! ## From the grammar to the scan -/

omit [Operand α ρ] in
/-- After a term, a tail may follow. -/
lemma head?_push_isTerm {level : List (Item α)} (h : Alternating .term level) (s : Stack α) :
    ∃ x, (s.push level).level.head? = some x ∧ x.isTerm = true := by
  have halternates : alternates true level = true := by
    simpa [alternates] using h []
  obtain ⟨hnil, htrue⟩ | ⟨x, hx, hterm⟩ := getLast?_isTerm_of_alternates true halternates
  · contradiction
  · exact ⟨x, by simp [Stack.push, hx], hterm⟩

/-- The items after which a phrase may follow on a level. -/
def Admits : Phrase → Option (Item α) → Prop
  | .primary, previous => ∀ x ∈ previous, x.isBinary = true ∨ x.isNegation = true
  | .term, previous => ∀ x ∈ previous, x.isBinary = true
  | .tail, previous => ∃ x, previous = some x ∧ x.isTerm = true
  | .expression, previous => previous = none

/-- Where a phrase may follow, the scan puts onto the level what the phrase contributes. -/
lemma run_of_elaborates {p : Phrase} {items level : List (Item α)}
    (h : Elaborates BuildsTo p items level) (s : Stack α) (hs : Admits p s.level.head?) :
    run s items = .ok (s.push level) := by
  induction h generalizing s with
  | unit h =>
    cases h with
    | operand h => rw [run_cons_of_moves (.operand h), run_nil]
    | group h => rw [run_cons_of_moves (.group h), run_nil]
  | @brackets items level h ih =>
    have halternates : alternates true level = true :=
      alternating_of_elaborates (fun _ _ => isTerm_of_buildsTo) h
    have hinner := ih ⟨[], s.level :: s.outer⟩ rfl
    have hpush : Stack.push level ⟨[], s.level :: s.outer⟩ =
        ⟨level.reverse, s.level :: s.outer⟩ := by simp [Stack.push]
    rw [run_cons_of_moves (.openBracket hs), run_append_of_run hinner, hpush,
      run_cons_of_moves (.closeBracket halternates), run_nil]
    rfl
  | plain _ ih =>
    apply ih
    intro x hx
    exact .inl (hs x hx)
  | @negated items level _ ih =>
    have hinner := ih (s.push [.operator .not]) (by simp [Admits, Stack.push, Item.isNegation])
    rw [run_cons_of_moves (.negation hs), hinner, Stack.push_push]
    rfl
  | done => rfl
  | @more op items level rest after hop h _ ih ihrest =>
    have hbinary : Admits .term (s.push [.operator op]).level.head? := by
      simpa [Admits, Stack.push, Item.isBinary] using hop
    have hterm := ih (s.push [.operator op]) hbinary
    have halternating := alternating_of_elaborates (fun _ _ => isTerm_of_buildsTo) h
    have htail := ihrest ((s.push [.operator op]).push level) (head?_push_isTerm halternating _)
    rw [run_cons_of_moves (.connective hop hs), run_append_of_run hterm, htail,
      Stack.push_push, Stack.push_push]
    rfl
  | @expression items level rest after h _ ih ihrest =>
    have hfirst : Admits .term s.level.head? := by
      rw [show s.level.head? = none from hs]
      simp [Admits]
    have halternating := alternating_of_elaborates (fun _ _ => isTerm_of_buildsTo) h
    have htail := ihrest (s.push level) (head?_push_isTerm halternating s)
    rw [run_append_of_run (ih s hfirst), htail, Stack.push_push]

omit [Operand α ρ] in
/-- What elaborates has its brackets in balance. -/
lemma balanced_of_elaborates {unit : Item α → Item α → Prop}
    (hunit : ∀ x y, unit x y → x.isTerm = true) {p : Phrase} {items level : List (Item α)}
    (h : Elaborates unit p items level) (depth : Nat) (rest : List (Item α)) :
    balanced depth (items ++ rest) = balanced depth rest := by
  induction h generalizing depth rest with
  | @unit x y h =>
    cases x with
    | operator op => simpa [Item.isTerm] using hunit _ _ h
    | operand a => simp [balanced]
    | group inner => simp [balanced]
  | brackets _ ih => simp [balanced, ih]
  | plain _ ih => exact ih depth rest
  | negated _ ih => simp [balanced, ih]
  | done => rfl
  | @more op items level rest' after hop _ _ ih ihrest =>
    cases op with
    | and | or => simp [balanced, ih, ihrest]
    | not | openBracket | closeBracket => simp [Operator.isBinary] at hop
  | expression _ _ ih ihrest => simp [ih, ihrest]

/-! ## From the scan to the grammar -/

/-- How far a level has come with the input `source`, and whether it wants a term next.  The level
lists its latest item first. -/
inductive Progress : (wantTerm : Bool) → (level source : List (Item α)) → Prop
  | start : Progress true [] []
  | complete {level source : List (Item α)} (h : Elaborates BuildsTo .expression source level) :
      Progress false level.reverse source
  | connective {op : Operator} {level source : List (Item α)} (hop : op.isBinary = true)
      (h : Elaborates BuildsTo .expression source level) :
      Progress true (.operator op :: level.reverse) (source ++ [.operator op])
  | negation {level source : List (Item α)} (hfree : ∀ x ∈ level.head?, x.isBinary = true)
      (h : Progress true level source) :
      Progress true (.operator .not :: level) (source ++ [.operator .not])

/-- A level that has taken up the input `source` is viable if it has come somewhere, unless nothing
can complete it any more. -/
def Viable (level source : List (Item α)) : Prop :=
  ∀ rest, alternates true (level.reverse ++ rest) = true →
    ∃ want, Progress want level source ∧ alternates want rest = true

section Levels

variable {level source items : List (Item α)} {x : Item α}

lemma Progress.append_primary (h : Progress true level source)
    (hx : Elaborates BuildsTo .primary items [x]) :
    Progress false (x :: level) (source ++ items) := by
  cases h with
  | start =>
    have hexpression : Elaborates BuildsTo .expression ([] ++ items) [x] := by
      simpa using Elaborates.expression (.plain hx) .done
    exact .complete hexpression
  | @connective op level source hop h =>
    simpa using Progress.complete (h.append_term hop (.plain hx))
  | @negation level source hfree h =>
    cases h with
    | start =>
      have hexpression : Elaborates BuildsTo .expression ([] ++ [.operator .not] ++ items)
          [.operator .not, x] := by
        simpa using Elaborates.expression (.negated hx) .done
      exact .complete hexpression
    | @connective op level source hop h =>
      simpa using Progress.complete (h.append_term hop (.negated hx))
    | negation _ _ =>
      -- two negations in a row: the second was refused for the first
      have := hfree _ rfl
      simp [Item.isBinary, Operator.isBinary] at this

lemma viable_nil : Viable ([] : List (Item α)) [] := by
  intro rest hrest
  exact ⟨true, .start, hrest⟩

lemma Viable.append_connective {op : Operator} (hop : op.isBinary = true)
    (h : Viable level source) :
    Viable (.operator op :: level) (source ++ [.operator op]) := by
  intro rest hrest
  have hshape : (Item.operator op :: level).reverse ++ rest =
      level.reverse ++ .operator op :: rest := by simp
  rw [hshape] at hrest
  obtain ⟨want, hprogress, hwant⟩ := h _ hrest
  cases want with
  | true =>
    -- a connective in the place of a term
    cases op <;> simp [alternates, Item.isNegation, Item.isTerm, Operator.isBinary] at hwant hop
  | false =>
    rw [alternates_operator hop] at hwant
    cases hprogress with
    | complete h => exact ⟨true, .connective hop h, hwant⟩

lemma Viable.append_negation (hfree : ∀ x ∈ level.head?, x.isBinary = true)
    (h : Viable level source) :
    Viable (.operator .not :: level) (source ++ [.operator .not]) := by
  intro rest hrest
  have hshape : (Item.operator .not :: level).reverse ++ rest =
      level.reverse ++ .operator .not :: rest := by simp
  rw [hshape] at hrest
  obtain ⟨want, hprogress, hwant⟩ := h _ hrest
  cases want with
  | true =>
    rw [alternates_negation] at hwant
    exact ⟨true, .negation hfree hprogress, hwant⟩
  | false => simp [alternates, Item.isBinary, Operator.isBinary] at hwant

lemma Viable.append_primary (hx : Elaborates BuildsTo .primary items [x])
    (h : Viable level source) : Viable (x :: level) (source ++ items) := by
  intro rest hrest
  have hterm : x.isTerm = true := by
    obtain ⟨y, hy, hterm⟩ := hx.exists_isTerm fun _ _ => isTerm_of_buildsTo
    cases hy
    exact hterm
  have hshape : (x :: level).reverse ++ rest = level.reverse ++ x :: rest := by simp
  rw [hshape] at hrest
  obtain ⟨want, hprogress, hwant⟩ := h _ hrest
  cases want with
  | true =>
    rw [alternates_term hterm] at hwant
    exact ⟨false, hprogress.append_primary hx, hwant⟩
  | false =>
    cases x with
    | operator op => simp [Item.isTerm] at hterm
    | operand a => simp [alternates, Item.isBinary] at hwant
    | group inner => simp [alternates, Item.isBinary] at hwant

lemma Viable.elaborates (h : Viable level source)
    (halternates : alternates true level.reverse = true) :
    Elaborates BuildsTo .expression source level.reverse := by
  obtain ⟨want, hprogress, hwant⟩ := h [] (by simpa using halternates)
  cases hprogress with
  | complete h => simpa using h
  | start | connective | negation => simp [alternates] at hwant

end Levels

/-- The input that a stack has taken up: that of the levels around the current one, each with the
bracket that interrupted it, and that of the current level, all of them viable. -/
inductive Reads : Stack α → List (Item α) → Prop
  | outermost {level source : List (Item α)} (h : Viable level source) :
      Reads ⟨level, []⟩ source
  | nested {around before level source : List (Item α)} {outer : List (List (Item α))}
      (haround : Reads ⟨around, outer⟩ before) (h : Viable level source) :
      Reads ⟨level, around :: outer⟩ (before ++ .operator .openBracket :: source)

section Stacks

variable {s next : Stack α} {source items : List (Item α)}

/-- What the current level takes up, the stack takes up. -/
lemma Reads.extend {level level' : List (Item α)} {outer : List (List (Item α))}
    (h : Reads ⟨level, outer⟩ source)
    (hlevel : ∀ source, Viable level source → Viable level' (source ++ items)) :
    Reads ⟨level', outer⟩ (source ++ items) := by
  cases h with
  | outermost h => exact .outermost (hlevel _ h)
  | @nested around before _ source outer haround h =>
    simpa using Reads.nested haround (hlevel _ h)

/-- An opened level becomes a term of the level around it. -/
lemma Reads.closeBracket {level around : List (Item α)} {outer : List (List (Item α))}
    (h : Reads ⟨level, around :: outer⟩ source)
    (halternates : alternates true level.reverse = true) :
    Reads ⟨.group level.reverse :: around, outer⟩ (source ++ [.operator .closeBracket]) := by
  cases h with
  | @nested _ before _ source _ haround h =>
    have hgroup := Elaborates.brackets (h.elaborates halternates)
    have hextend := haround.extend fun _ hviable => hviable.append_primary hgroup
    simpa using hextend

/-- One item: what the stack has read grows by it. -/
lemma Reads.moves {item : Item α} (h : Reads s source) (hmoves : Moves s item next) :
    Reads next (source ++ [item]) := by
  cases hmoves with
  | operand hprepare =>
    exact h.extend fun _ hviable => hviable.append_primary (.unit (.operand hprepare))
  | group hne => exact h.extend fun _ hviable => hviable.append_primary (.unit (.group hne))
  | connective hop _ => exact h.extend fun _ hviable => hviable.append_connective hop
  | negation hfree => exact h.extend fun _ hviable => hviable.append_negation hfree
  | openBracket _ =>
    obtain ⟨level, outer⟩ := s
    exact .nested h viable_nil
  | @closeBracket level around outer halternates =>
    simpa using Reads.closeBracket h (by simpa using halternates)

/-- A sequence of items: what the stack has read grows by all of them. -/
lemma Reads.run (h : Reads s source) (hrun : run s items = .ok next) :
    Reads next (source ++ items) := by
  induction items generalizing s source with
  | nil =>
    cases hrun
    simpa using h
  | cons item items ih =>
    rw [run_cons, bind_eq_ok_iff] at hrun
    obtain ⟨following, hstep, hrest⟩ := hrun
    simpa using ih (h.moves (moves_of_step hstep)) hrest

lemma Reads.close {level : List (Item α)} (h : Reads s source) (hclose : close s = .ok level) :
    Elaborates BuildsTo .expression source level := by
  cases h with
  | outermost h =>
    simp only [Build.close] at hclose
    split at hclose
    · next halternates =>
      cases hclose
      exact h.elaborates halternates
    · contradiction
  | nested _ _ => contradiction

end Stacks

/-! ## What building returns -/

lemma place_eq_ok_iff {items level : List (Item α)} :
    (place [] [] items).result = .ok level ↔ Elaborates BuildsTo .expression items level := by
  have hplace := place_result (⟨[], []⟩ : Stack α) items
  constructor
  · intro h
    rw [hplace, bind_eq_ok_iff] at h
    obtain ⟨s, hrun, hclose⟩ := h
    exact ((Reads.outermost viable_nil).run hrun).close hclose
  · intro h
    have halternates : alternates true level = true :=
      alternating_of_elaborates (fun _ _ => isTerm_of_buildsTo) h
    have hrun := run_of_elaborates h ⟨[], []⟩ rfl
    rw [hplace, bind_eq_ok_iff]
    exact ⟨_, hrun, by simp [close, Stack.push, halternates]⟩

/-- **Building is elaboration.**  The items of a level come out exactly if they are what the grammar
makes of the input, or nothing comes out of nothing. -/
theorem items_eq_ok_iff {items level : List (Item α)} :
    (Build.items items).result = .ok level ↔
      (items = [] ∧ level = []) ∨ Elaborates BuildsTo .expression items level := by
  cases items with
  | nil =>
    have hnone : ¬ Elaborates BuildsTo .expression [] level := by
      intro h
      have := place_eq_ok_iff.mpr h
      simp [place, alternates, Outcome.fail] at this
    simp only [Build.items, Except.ok.injEq, true_and]
    constructor
    · rintro rfl
      exact .inl rfl
    · rintro (rfl | h)
      · rfl
      · exact absurd h hnone
  | cons item rest =>
    have hbalanced : Elaborates BuildsTo .expression (item :: rest) level →
        balanced 0 (item :: rest) = true := by
      intro h
      have hunit : ∀ x y : Item α, BuildsTo x y → x.isTerm = true := by
        rintro _ _ (_ | _) <;> rfl
      simpa [balanced] using balanced_of_elaborates hunit h 0 []
    rw [Build.items]
    split
    · simp [place_eq_ok_iff]
    · next hunbalanced =>
      constructor
      · intro h
        contradiction
      · rintro (⟨h, -⟩ | h)
        · contradiction
        · exact absurd (hbalanced h) hunbalanced

end Build

namespace Expression

variable [Operand α ρ]

lemma build_eq_ok_iff {items : List (Item α)} {e : Expression α} :
    build items = .ok e ↔
      (items = [] ∧ e.items = []) ∨ Elaborates BuildsTo .expression items e.items := by
  rw [← Build.items_eq_ok_iff, build, map_eq_ok_iff]
  constructor
  · rintro ⟨level, h, rfl⟩
    exact h
  · intro h
    exact ⟨e.items, h, rfl⟩

/-- **Building succeeds exactly for the sequences that the grammar derives** and whose operands all
prepare, and for the empty one. -/
theorem build_isOk_iff (items : List (Item α)) :
    (∃ e, build items = .ok e) ↔
      items = [] ∨ ((∀ a, Item.operand a ∈ items → ∃ b, Operand.prepare a = .ok b) ∧
        Derives .expression items) := by
  constructor
  · rintro ⟨e, he⟩
    obtain ⟨rfl, -⟩ | h := build_eq_ok_iff.mp he
    · exact .inl rfl
    · exact .inr ⟨h.prepares, h.derives⟩
  · rintro (rfl | ⟨hprepare, hderives⟩)
    · exact ⟨{}, rfl⟩
    · obtain ⟨level, h⟩ := hderives.elaborates hprepare
      exact ⟨⟨level⟩, build_eq_ok_iff.mpr (.inr h)⟩

end Expression

end FileSieve
