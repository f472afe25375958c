import FileSieve.Proofs.Expression.Built

/-!
# The levels of a built expression

The levels of an expression are its outermost sequence of items and, at any depth, the items of its
groups (`Expression.HasLevel`).  A level is in good shape if it is a chain: terms with one connective
between each two, where a term is an operand or a group with at most one negation before it
(`Level.IsChain`).  Brackets have no place on a chain, and neither has a negation anywhere else.

`Expression.Built.isChain` says that every level of a built expression is a chain; only the
expression without items has a level that is empty.  It follows from the grammar: what a flat
sequence of items elaborates to is a chain (`Level.contributes_of_elaborates`), and each of its
groups has a flat source of its own (`HasLevel.exists_flat`).
-/

namespace FileSieve

open Grammar

variable {α ρ : Type}

lemma Operator.isBinary_iff {op : Operator} : op.isBinary = true ↔ op = .and ∨ op = .or := by
  cases op <;> simp [isBinary]

/-- The levels of an expression, at every depth. -/
inductive Expression.HasLevel (e : Expression α) : List (Item α) → Prop
  /-- The outermost level. -/
  | outermost : e.HasLevel e.items
  /-- The items of a group on a level. -/
  | inside {level inner : List (Item α)} (h : e.HasLevel level)
      (hmem : Item.group inner ∈ level) : e.HasLevel inner

namespace Level

/-! ## Chains of terms -/

/-- An operand or a group, perhaps with one negation before it. -/
inductive IsTerm : List (Item α) → Prop
  | plain {x : Item α} (hx : x.isTerm = true) : IsTerm [x]
  | negated {x : Item α} (hx : x.isTerm = true) : IsTerm [.operator .not, x]

/-- Terms with one connective between each two. -/
inductive IsChain : List (Item α) → Prop
  | last {term : List (Item α)} (h : IsTerm term) : IsChain term
  | join {term rest : List (Item α)} {op : Operator} (h : IsTerm term) (hop : op.isBinary = true)
      (hrest : IsChain rest) : IsChain (term ++ .operator op :: rest)

/-- What may follow a term on its level. -/
inductive Continues : List (Item α) → Prop
  | done : Continues []
  | join {op : Operator} {rest : List (Item α)} (hop : op.isBinary = true) (h : IsChain rest) :
      Continues (.operator op :: rest)

variable {level term rest : List (Item α)} {op : Operator}

lemma IsTerm.ne_nil (h : IsTerm term) : term ≠ [] := by
  cases h with
  | plain _ => simp
  | negated _ => simp

lemma IsTerm.operator_mem (h : IsTerm term) (hmem : Item.operator op ∈ term) : op = .not := by
  cases h with
  | plain hx =>
    rw [List.mem_singleton] at hmem
    simp [← hmem, Item.isTerm] at hx
  | negated hx =>
    rw [List.mem_cons, List.mem_singleton] at hmem
    obtain hnot | hmem := hmem
    · cases hnot
      rfl
    · simp [← hmem, Item.isTerm] at hx

lemma IsTerm.append (h : IsTerm term) (hrest : Continues rest) : IsChain (term ++ rest) := by
  cases hrest with
  | done => simpa using IsChain.last h
  | join hop hrest => exact .join h hop hrest

/-- A chain begins with a term, after which it ends or goes on with a connective. -/
lemma IsChain.exists_term (h : IsChain level) :
    ∃ term rest, level = term ++ rest ∧ IsTerm term ∧ Continues rest := by
  cases h with
  | last h => exact ⟨level, [], by simp, h, .done⟩
  | @join term rest op h hop hrest => exact ⟨term, .operator op :: rest, rfl, h, .join hop hrest⟩

lemma IsChain.ne_nil (h : IsChain level) : level ≠ [] := by
  obtain ⟨term, rest, rfl, hterm, -⟩ := h.exists_term
  simp [hterm.ne_nil]

/-- The operators on a chain are negations and connectives. -/
lemma IsChain.operator_mem (h : IsChain level) (hmem : Item.operator op ∈ level) :
    op = .not ∨ op.isBinary = true := by
  induction h with
  | last h => exact .inl (h.operator_mem hmem)
  | join h hop _ ih =>
    rw [List.mem_append, List.mem_cons] at hmem
    obtain hmem | hmem | hmem := hmem
    · exact .inl (h.operator_mem hmem)
    · cases hmem
      exact .inr hop
    · exact ih hmem

/-- A level in good shape. -/
structure WellFormed (level : List (Item α)) : Prop where
  ne_nil : level ≠ []
  openBracket_notMem : Item.operator .openBracket ∉ level
  closeBracket_notMem : Item.operator .closeBracket ∉ level
  chain : IsChain level

lemma IsChain.wellFormed (h : IsChain level) : WellFormed level where
  ne_nil := h.ne_nil
  openBracket_notMem hmem := by simpa [Operator.isBinary] using h.operator_mem hmem
  closeBracket_notMem hmem := by simpa [Operator.isBinary] using h.operator_mem hmem
  chain := h

/-! ## What the grammar makes is a chain -/

/-- What a phrase contributes to the chain of its level. -/
def Contributes : Phrase → List (Item α) → Prop
  | .primary, level => ∃ x, level = [x] ∧ x.isTerm = true
  | .term, level => IsTerm level
  | .tail, level => Continues level
  | .expression, level => IsChain level

lemma contributes_of_elaborates {unit : Item α → Item α → Prop}
    (hunit : ∀ x y, unit x y → y.isTerm = true) {p : Phrase} {source : List (Item α)}
    (h : Elaborates unit p source level) : Contributes p level := by
  induction h with
  | unit h => exact ⟨_, rfl, hunit _ _ h⟩
  | brackets _ _ => exact ⟨_, rfl, rfl⟩
  | plain _ ih =>
    obtain ⟨x, rfl, hx⟩ := ih
    exact .plain hx
  | negated _ ih =>
    obtain ⟨x, rfl, hx⟩ := ih
    exact .negated hx
  | done => exact .done
  | more hop _ _ ih ihrest => exact .join hop (ih.append ihrest)
  | expression _ _ ih ihrest => exact ih.append ihrest

end Level

namespace Expression

variable [Operand α ρ] {e : Expression α} {level : List (Item α)}

/-- If the outermost level has a flat source, then so has every level. -/
lemma HasLevel.exists_flat (h : e.HasLevel level)
    (hflat : ∃ source, Elaborates PreparesTo .expression source e.items) :
    ∃ source, Elaborates PreparesTo .expression source level := by
  induction h with
  | outermost => exact hflat
  | inside _ hmem ih =>
    obtain ⟨source, hsource⟩ := ih
    exact hsource.exists_of_group_mem _ hmem

/-- A built expression without items apart, every level of it is what the grammar makes of a flat
sequence of items. -/
lemma Built.level_elaborates (h : e.Built) :
    e.items = [] ∨
      ∀ level, e.HasLevel level → ∃ source, Elaborates PreparesTo .expression source level :=
  h.elaborates.imp_right fun hflat _ hlevel => hlevel.exists_flat hflat

lemma Built.isChain (h : e.Built) :
    e.items = [] ∨ ∀ level, e.HasLevel level → Level.IsChain level := by
  refine h.level_elaborates.imp_right fun hlevels level hlevel => ?_
  obtain ⟨source, hsource⟩ := hlevels level hlevel
  exact Level.contributes_of_elaborates (fun _ _ => isTerm_of_preparesTo) hsource

end Expression

end FileSieve
