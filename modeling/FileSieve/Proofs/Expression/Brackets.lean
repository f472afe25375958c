import FileSieve.Builtin
import FileSieve.Proofs.Expression.Building

/-!
# Brackets in balance

Before anything else, building looks at the brackets of the whole input.  They are in balance
(`Item.Balanced`) if no front part of the items closes more of them than it opens and none is left
open at the end; the brackets of ready-made groups do not count.  The look ahead decides exactly this
(`Build.balanced_iff`).

The scan after it counts brackets too, by the levels that it keeps: the items that are left close
exactly the levels that are open (`Build.balanced_of_run`).  So on items in balance it never meets a
bracket that closes nothing, and never ends inside a bracket (`Build.place_ne_unbalancedBrackets`).
`Expression.build_unbalancedBrackets` puts the two together: brackets that are not in balance are the
error of the build whatever else is wrong with the items, and they are found before any operand is
prepared.
-/

namespace FileSieve

variable {α ρ : Type}

/-! ## Counting brackets -/

namespace Item

/-- Whether the item is an opening bracket. -/
def isOpening : Item α → Bool
  | .operator .openBracket => true
  | _ => false

/-- Whether the item is a closing bracket. -/
def isClosing : Item α → Bool
  | .operator .closeBracket => true
  | _ => false

/-- The number of opening brackets among the items. -/
def openings (items : List (Item α)) : Nat := items.countP isOpening

/-- The number of closing brackets among the items. -/
def closings (items : List (Item α)) : Nat := items.countP isClosing

/-- With `depth` brackets open before the items, no front part of them closes a bracket that is not
open, and none is open at their end. -/
structure Balanced (depth : Nat) (items : List (Item α)) : Prop where
  closings_le : ∀ front, front <+: items → closings front ≤ depth + openings front
  settled : closings items = depth + openings items

variable {x : Item α} {items front rest : List (Item α)} {depth : Nat}

lemma isOpening_iff : x.isOpening = true ↔ x = .operator .openBracket := by
  unfold isOpening
  split <;> simp_all

lemma isClosing_iff : x.isClosing = true ↔ x = .operator .closeBracket := by
  unfold isClosing
  split <;> simp_all

@[simp] lemma openings_nil : openings ([] : List (Item α)) = 0 := rfl

@[simp] lemma closings_nil : closings ([] : List (Item α)) = 0 := rfl

lemma openings_cons : openings (x :: items) = openings items + if x.isOpening then 1 else 0 :=
  List.countP_cons

lemma closings_cons : closings (x :: items) = closings items + if x.isClosing then 1 else 0 :=
  List.countP_cons

lemma balanced_nil : Balanced depth ([] : List (Item α)) ↔ depth = 0 := by
  constructor
  · intro h
    have hsettled := h.settled
    simp only [closings_nil, openings_nil] at hsettled
    omega
  · rintro rfl
    refine ⟨fun front hfront => ?_, rfl⟩
    rw [List.prefix_nil.mp hfront]
    simp

/-- The first item may be taken off, if it leaves some number of brackets open. -/
lemma balanced_cons {next : Nat} (hx : depth + (if x.isOpening then 1 else 0) =
    next + if x.isClosing then 1 else 0) : Balanced depth (x :: items) ↔ Balanced next items := by
  constructor
  · intro h
    refine ⟨fun front hfront => ?_, ?_⟩
    · have hle := h.closings_le (x :: front) (List.cons_prefix_cons.mpr ⟨rfl, hfront⟩)
      rw [closings_cons, openings_cons] at hle
      omega
    · have hsettled := h.settled
      rw [closings_cons, openings_cons] at hsettled
      omega
  · intro h
    refine ⟨fun front hfront => ?_, ?_⟩
    · rcases List.prefix_cons_iff.mp hfront with rfl | ⟨front, rfl, hfront⟩
      · simp
      · have hle := h.closings_le front (List.cons_prefix_cons.mp hfront).2
        rw [closings_cons, openings_cons]
        omega
    · have hsettled := h.settled
      rw [closings_cons, openings_cons]
      omega

/-- Where no bracket is open, none may be closed. -/
lemma not_balanced_zero_cons (hx : x.isClosing = true) : ¬ Balanced 0 (x :: items) := by
  intro h
  have hle := h.closings_le [x] ⟨items, rfl⟩
  obtain rfl := isClosing_iff.mp hx
  simp [closings, openings, isOpening, isClosing] at hle

end Item

namespace Build

open Item

/-! ## The look ahead -/

lemma balanced_cons_of_not_bracket {x : Item α} (hopen : x.isOpening = false)
    (hclose : x.isClosing = false) (depth : Nat) (items : List (Item α)) :
    balanced depth (x :: items) = balanced depth items := by
  rw [balanced]
  · rintro rfl
    simp [isOpening] at hopen
  · rintro - rfl
    simp [isClosing] at hclose
  · rintro - - rfl
    simp [isClosing] at hclose

/-- The look ahead finds out whether brackets are in balance. -/
lemma balanced_iff (depth : Nat) (items : List (Item α)) :
    balanced depth items = true ↔ Balanced depth items := by
  induction items generalizing depth with
  | nil => simp [balanced, balanced_nil]
  | cons x items ih =>
    by_cases hopen : x.isOpening = true
    · obtain rfl := isOpening_iff.mp hopen
      have hcons : Balanced depth (.operator .openBracket :: items) ↔ Balanced (depth + 1) items :=
        balanced_cons (by simp [isOpening, isClosing])
      rw [balanced, ih, hcons]
    by_cases hclose : x.isClosing = true
    · obtain rfl := isClosing_iff.mp hclose
      rcases depth with _ | depth
      · simpa [balanced] using not_balanced_zero_cons hclose
      · have hcons : Balanced (depth + 1) (.operator .closeBracket :: items) ↔
            Balanced depth items := balanced_cons (by simp [isOpening, isClosing])
        rw [balanced, ih, hcons]
    · have hopen : x.isOpening = false := by simpa using hopen
      have hclose : x.isClosing = false := by simpa using hclose
      have hcons : Balanced depth (x :: items) ↔ Balanced depth items :=
        balanced_cons (by simp [hopen, hclose])
      rw [balanced_cons_of_not_bracket hopen hclose, ih, hcons]

/-! ## Where the scan fails -/

variable [Operand α ρ] {s next : Stack α} {item : Item α} {items front rest : List (Item α)}
  {e : ExpressionError ρ}

/-- A run fails at one item, before which the stack has taken in everything. -/
lemma run_eq_error_iff : run s items = .error e ↔
    ∃ front item rest next, items = front ++ item :: rest ∧ run s front = .ok next ∧
      step next item = .error e :=
  foldlM_eq_error_iff

/-- The scan fails at an item or at the end. -/
lemma place_eq_error_iff : (place [] [] items).result = .error e ↔
    (∃ front item rest s, items = front ++ item :: rest ∧ run ⟨[], []⟩ front = .ok s ∧
      step s item = .error e) ∨ ∃ s, run ⟨[], []⟩ items = .ok s ∧ close s = .error e := by
  rw [place_result ⟨[], []⟩ items, bind_eq_error_iff, run_eq_error_iff]

/-- Why an item does not move the stack. -/
inductive Faults : Stack α → Item α → ExpressionError ρ → Prop
  | refused {s : Stack α} {item : Item α} {e : GrammarError}
      (h : refusal? s.level.head? item = some e) : Faults s item (.grammar e)
  | operand {s : Stack α} {a : α} {reason : ρ} (h : Operand.prepare a = .error reason) :
      Faults s (.operand a) (.operand reason)
  | nothingOpen {level : List (Item α)} :
      Faults ⟨level, []⟩ (.operator .closeBracket) (.grammar .unbalancedBrackets)
  | unfinished {s : Stack α} (h : alternates true s.level.reverse = false) :
      Faults s (.operator .closeBracket)
        (.grammar (.incompleteExpression (Item.levelText s.level.reverse)))

lemma faults_of_step (h : step s item = .error e) : Faults s item e := by
  obtain ⟨level, outer⟩ := s
  unfold step at h
  split at h
  · next hrefused =>
    cases h
    exact .refused hrefused
  · cases item with
    | operand a =>
      dsimp only at h
      split at h
      · next hprepare =>
        cases h
        exact .operand hprepare
      · cases h
    | group inner => cases h
    | operator op =>
      cases op with
      | and | or | not | openBracket => cases h
      | closeBracket =>
        cases outer with
        | nil =>
          cases h
          exact .nothingOpen
        | cons around further =>
          dsimp only at h
          split at h
          · cases h
          · next halternates =>
            cases h
            exact .unfinished (by simpa using halternates)

/-! ## Open brackets and open levels -/

/-- What an item does to the number of open brackets, it does to the number of open levels. -/
lemma step_outer_length (h : step s item = .ok next) :
    next.outer.length + (if item.isClosing then 1 else 0) =
      s.outer.length + if item.isOpening then 1 else 0 := by
  cases moves_of_step h with
  | operand _ => rfl
  | group _ => rfl
  | @connective _ op hop _ =>
    cases op with
    | and | or => rfl
    | not | openBracket | closeBracket => simp [Operator.isBinary] at hop
  | negation _ => rfl
  | openBracket _ => rfl
  | closeBracket _ => rfl

/-- An item leaves to the items after it the levels that it leaves open. -/
lemma balanced_of_step (h : Balanced s.outer.length (item :: items))
    (hstep : step s item = .ok next) : Balanced next.outer.length items :=
  (balanced_cons (step_outer_length hstep).symm).mp h

/-- A run leaves to the items after it the levels that it leaves open. -/
lemma balanced_of_run (h : Balanced s.outer.length (front ++ rest))
    (hrun : run s front = .ok next) : Balanced next.outer.length rest := by
  induction front generalizing s with
  | nil =>
    cases hrun
    exact h
  | cons item front ih =>
    rw [run_cons, bind_eq_ok_iff] at hrun
    obtain ⟨following, hstep, hfront⟩ := hrun
    exact ih (balanced_of_step h hstep) hfront

omit [Operand α ρ] in
/-- A closing bracket in balance finds a level to close. -/
lemma outer_ne_nil_of_isClosing (h : Balanced s.outer.length (item :: items))
    (hclosing : item.isClosing = true) : s.outer ≠ [] := by
  intro houter
  rw [houter] at h
  exact not_balanced_zero_cons hclosing h

omit [Operand α ρ] in
lemma leftTermFault?_ne_unbalancedBrackets (op : Operator) (previous : Option (Item α)) :
    leftTermFault? op previous ≠ some .unbalancedBrackets := by
  unfold leftTermFault?
  split
  · simp
  · split <;> simp

/-- The look at the previous item is about everything but the balance of brackets. -/
lemma refusal?_ne_unbalancedBrackets (previous : Option (Item α)) (item : Item α) :
    refusal? previous item ≠ some .unbalancedBrackets := by
  cases item with
  | operand a => simp [refusal?]
  | group inner => cases inner <;> simp [refusal?]
  | operator op =>
    cases op with
    | and | or | closeBracket => exact leftTermFault?_ne_unbalancedBrackets _ previous
    | not | openBracket =>
      cases previous with
      | none => simp [refusal?, operatorFault?]
      | some x =>
        simp only [refusal?, operatorFault?]
        split <;> simp

/-- A bracket is refused as out of balance only if it closes a level that is not open. -/
lemma outer_eq_nil_of_step (h : step s item = .error (.grammar .unbalancedBrackets)) :
    item.isClosing = true ∧ s.outer = [] := by
  cases faults_of_step h with
  | refused hrefused => exact absurd hrefused (refusal?_ne_unbalancedBrackets _ _)
  | nothingOpen => exact ⟨rfl, rfl⟩

lemma outer_ne_nil_of_balanced (h : Balanced 0 (front ++ item :: rest))
    (hrun : run ⟨[], []⟩ front = .ok s) (hclosing : item.isClosing = true) : s.outer ≠ [] :=
  outer_ne_nil_of_isClosing (balanced_of_run (s := ⟨[], []⟩) h hrun) hclosing

/-- On items in balance, no level is left open at the end. -/
lemma outer_eq_nil_of_balanced (h : Balanced 0 items) (hrun : run ⟨[], []⟩ items = .ok s) :
    s.outer = [] := by
  rw [← List.append_nil items] at h
  have hend := balanced_of_run (s := ⟨[], []⟩) h hrun
  exact List.length_eq_zero_iff.mp (balanced_nil.mp hend)

/-- **On items in balance the scan finds nothing wrong with the brackets**: it neither meets a
bracket that closes nothing nor ends inside a bracket. -/
lemma place_ne_unbalancedBrackets (h : Balanced 0 items) :
    (place [] [] items).result ≠ .error (.grammar .unbalancedBrackets) := by
  intro herror
  rcases place_eq_error_iff.mp herror with ⟨front, item, rest, s, rfl, hrun, hstep⟩ | ⟨s, hrun, hclose⟩
  · obtain ⟨hclosing, houter⟩ := outer_eq_nil_of_step hstep
    exact outer_ne_nil_of_balanced h hrun hclosing houter
  · have houter := outer_eq_nil_of_balanced h hrun
    simp only [close, houter] at hclose
    split at hclose <;> cases hclose

/-! ## The whole build -/

lemma items_of_not_balanced (h : ¬ Balanced 0 items) :
    Build.items items = .fail .unbalancedBrackets := by
  cases items with
  | nil => exact absurd (balanced_nil.mpr rfl) h
  | cons item rest =>
    have hbalanced : balanced 0 (item :: rest) = false := by
      rw [Bool.eq_false_iff]
      intro hbalanced
      exact h ((balanced_iff 0 _).mp hbalanced)
    simp [Build.items, hbalanced]

lemma items_of_balanced (hne : items ≠ []) (h : Balanced 0 items) :
    Build.items items = place [] [] items := by
  cases items with
  | nil => contradiction
  | cons item rest =>
    have hbalanced : balanced 0 (item :: rest) = true := (balanced_iff 0 _).mpr h
    simp [Build.items, hbalanced]

end Build

lemma Item.not_balanced_iff {items : List (Item α)} :
    ¬ Item.Balanced 0 items ↔
      (∃ front, front <+: items ∧ Item.openings front < Item.closings front) ∨
        Item.openings items ≠ Item.closings items := by
  constructor
  · intro h
    by_contra hnone
    push Not at hnone
    obtain ⟨hfronts, hsettled⟩ := hnone
    refine h ⟨fun front hfront => ?_, ?_⟩
    · have hle := hfronts front hfront
      omega
    · omega
  · rintro (⟨front, hfront, hlt⟩ | hne) h
    · have hle := h.closings_le front hfront
      omega
    · have hsettled := h.settled
      omega

namespace Expression

variable [Operand α ρ] {items : List (Item α)}

lemma build_eq_unbalancedBrackets_iff :
    build items = .error (.grammar .unbalancedBrackets) ↔ ¬ Item.Balanced 0 items := by
  rw [build, map_eq_error_iff]
  by_cases hbalanced : Item.Balanced 0 items
  · simp only [hbalanced, not_true_eq_false, iff_false]
    by_cases hne : items = []
    · simp [hne, Build.items]
    · rw [Build.items_of_balanced hne hbalanced]
      exact Build.place_ne_unbalancedBrackets hbalanced
  · simp [hbalanced, Build.items_of_not_balanced, Build.Outcome.fail]

lemma preparations_of_not_balanced (h : ¬ Item.Balanced 0 items) : preparations items = [] := by
  rw [preparations, Build.items_of_not_balanced h, Build.Outcome.fail]

/-- **Brackets out of balance pre-empt everything.**  Building fails for its brackets if and only if
some front part of the items closes more brackets than it opens, or the numbers of both differ in the
whole, whatever else the items hold; no operand has been prepared then.  It is the look ahead that
finds out: the scan itself never fails for brackets. -/
theorem build_unbalancedBrackets (items : List (Item α)) :
    (build items = .error (.grammar .unbalancedBrackets) ↔
      (∃ front, front <+: items ∧ Item.openings front < Item.closings front) ∨
        Item.openings items ≠ Item.closings items) ∧
    (build items = .error (.grammar .unbalancedBrackets) → preparations items = []) ∧
    (Build.balanced 0 items = true →
      (Build.place [] [] items).result ≠ .error (.grammar .unbalancedBrackets)) := by
  refine ⟨?_, ?_, ?_⟩
  · rw [build_eq_unbalancedBrackets_iff, Item.not_balanced_iff]
  · intro herror
    exact preparations_of_not_balanced (build_eq_unbalancedBrackets_iff.mp herror)
  · intro hbalanced
    exact Build.place_ne_unbalancedBrackets ((Build.balanced_iff 0 items).mp hbalanced)

/-- A bracket that closes nothing, and one that is never closed, among items with a refused operand
and neighbouring connectives. -/
def strayBrackets : List (Item Builtin) :=
  [.operand (.fileType "x" none), .operator .closeBracket, .operator .and, .operator .or,
    .operator .openBracket]

/-- The same items with their brackets the other way round. -/
def pairedBrackets : List (Item Builtin) := strayBrackets.reverse

theorem build_unbalancedBrackets_stray :
    build strayBrackets = .error (.grammar .unbalancedBrackets) ∧ preparations strayBrackets = [] ∧
      Item.openings strayBrackets = Item.closings strayBrackets ∧
      Build.balanced 0 pairedBrackets = true ∧
      (Build.place [] [] pairedBrackets).result ≠ .error (.grammar .unbalancedBrackets) := by
  obtain ⟨hiff, hprepared, -⟩ := build_unbalancedBrackets strayBrackets
  obtain ⟨-, -, hscan⟩ := build_unbalancedBrackets pairedBrackets
  have hfront : ∃ front, front <+: strayBrackets ∧ Item.openings front < Item.closings front :=
    ⟨strayBrackets.take 2, List.take_prefix 2 strayBrackets, by decide⟩
  have herror := hiff.mpr (.inl hfront)
  have hbalanced : Build.balanced 0 pairedBrackets = true := by rfl
  exact ⟨herror, hprepared herror, by decide, hbalanced, hscan hbalanced⟩

end Expression

end FileSieve
