import FileSieve.Expression.Build
import FileSieve.Proofs.Outcome

/-!
# The grammar of expressions

```
expression := term ((&& | ||) term)*
term       := [!] primary
primary    := operand | group with items | ( expression )
```

`Derives` is this grammar over items, one rule for each alternative.  It says which sequences of
items are expressions and nothing about what becomes of them.

`Elaborates` adds the result: it relates the items of a phrase to the items that it contributes to
its level.  Brackets become groups there.  What else fills the place of an operand is left to a
relation `unit`, so that the same rules describe what building does with its input
(`Elaborates BuildsTo`) and what it does with input that has no ready-made groups
(`Elaborates PreparesTo`).  `Derives.elaborates` and `Elaborates.derives` connect the two inductive
types: items elaborate in building exactly when the grammar derives them and all their operands
prepare.
-/

namespace FileSieve

variable {α ρ : Type}

lemma Item.isNegation_of_isTerm {x : Item α} (hx : x.isTerm = true) : x.isNegation = false := by
  cases x with
  | operator op => simp [isTerm] at hx
  | operand a => rfl
  | group inner => rfl

namespace Grammar

/-- The kinds of phrases. -/
inductive Phrase
  /-- An operand, a group, or an expression between brackets. -/
  | primary
  /-- A primary, perhaps negated. -/
  | term
  /-- Any number of connectives, each with a term after it. -/
  | tail
  /-- A term with a tail. -/
  | expression
  deriving DecidableEq, Repr

/-! ## Derivations -/

/-- The items that make up a phrase. -/
inductive Derives : Phrase → List (Item α) → Prop
  | operand (a : α) : Derives .primary [.operand a]
  | group {inner : List (Item α)} (h : inner ≠ []) : Derives .primary [.group inner]
  | brackets {items : List (Item α)} (h : Derives .expression items) :
      Derives .primary (.operator .openBracket :: (items ++ [.operator .closeBracket]))
  | plain {items : List (Item α)} (h : Derives .primary items) : Derives .term items
  | negated {items : List (Item α)} (h : Derives .primary items) :
      Derives .term (.operator .not :: items)
  | done : Derives .tail []
  | more {op : Operator} {items rest : List (Item α)} (hop : op.isBinary = true)
      (h : Derives .term items) (hrest : Derives .tail rest) :
      Derives .tail (.operator op :: (items ++ rest))
  | expression {items rest : List (Item α)} (h : Derives .term items)
      (hrest : Derives .tail rest) : Derives .expression (items ++ rest)

/-! ## Elaboration -/

/-- The items that make up a phrase, with the items that they contribute to their level.  An item
that fills the place of an operand by itself contributes what `unit` relates it to. -/
inductive Elaborates (unit : Item α → Item α → Prop) :
    Phrase → (items level : List (Item α)) → Prop
  | unit {x y : Item α} (h : unit x y) : Elaborates unit .primary [x] [y]
  | brackets {items level : List (Item α)} (h : Elaborates unit .expression items level) :
      Elaborates unit .primary (.operator .openBracket :: (items ++ [.operator .closeBracket]))
        [.group level]
  | plain {items level : List (Item α)} (h : Elaborates unit .primary items level) :
      Elaborates unit .term items level
  | negated {items level : List (Item α)} (h : Elaborates unit .primary items level) :
      Elaborates unit .term (.operator .not :: items) (.operator .not :: level)
  | done : Elaborates unit .tail [] []
  | more {op : Operator} {items level rest after : List (Item α)} (hop : op.isBinary = true)
      (h : Elaborates unit .term items level) (hrest : Elaborates unit .tail rest after) :
      Elaborates unit .tail (.operator op :: (items ++ rest)) (.operator op :: (level ++ after))
  | expression {items level rest after : List (Item α)} (h : Elaborates unit .term items level)
      (hrest : Elaborates unit .tail rest after) :
      Elaborates unit .expression (items ++ rest) (level ++ after)

/-- What building makes of an item that fills the place of an operand: an operand is prepared, and
a group with items stays as it is. -/
inductive BuildsTo [Operand α ρ] : Item α → Item α → Prop
  | operand {a b : α} (h : Operand.prepare a = .ok b) : BuildsTo (.operand a) (.operand b)
  | group {inner : List (Item α)} (h : inner ≠ []) : BuildsTo (.group inner) (.group inner)

/-- What building makes of an operand, where groups are not admitted. -/
inductive PreparesTo [Operand α ρ] : Item α → Item α → Prop
  | operand {a b : α} (h : Operand.prepare a = .ok b) : PreparesTo (.operand a) (.operand b)

lemma isTerm_of_buildsTo [Operand α ρ] {x y : Item α} (h : BuildsTo x y) : y.isTerm = true := by
  cases h <;> rfl

lemma isTerm_of_preparesTo [Operand α ρ] {x y : Item α} (h : PreparesTo x y) :
    y.isTerm = true := by
  cases h
  rfl

section Rules

variable {unit : Item α → Item α → Prop} {items level rest after : List (Item α)}

/-- Input that is changed in the places of operands elaborates to the same level, if each changed
item contributes what it did before. -/
lemma Elaborates.map {unit' : Item α → Item α → Prop} {f : Item α → Item α}
    (hoperator : ∀ op, f (.operator op) = .operator op) (hunit : ∀ x y, unit x y → unit' (f x) y)
    {p : Phrase} (h : Elaborates unit p items level) : Elaborates unit' p (items.map f) level := by
  induction h with
  | unit h => exact .unit (hunit _ _ h)
  | brackets _ ih => simpa [hoperator] using Elaborates.brackets ih
  | plain _ ih => exact .plain ih
  | negated _ ih => simpa [hoperator] using Elaborates.negated ih
  | done => exact .done
  | more hop _ _ ih ihrest => simpa [hoperator] using Elaborates.more hop ih ihrest
  | expression _ _ ih ihrest => simpa using Elaborates.expression ih ihrest

/-- A primary contributes one item, which is a term. -/
lemma Elaborates.exists_isTerm (hunit : ∀ x y, unit x y → y.isTerm = true)
    (h : Elaborates unit .primary items level) : ∃ x, level = [x] ∧ x.isTerm = true := by
  cases h with
  | unit h => exact ⟨_, rfl, hunit _ _ h⟩
  | brackets h => exact ⟨_, rfl, rfl⟩

lemma Elaborates.tail_append {items' level' : List (Item α)}
    (h : Elaborates unit .tail items level) (h' : Elaborates unit .tail items' level') :
    Elaborates unit .tail (items ++ items') (level ++ level') := by
  generalize hp : Phrase.tail = p at h
  induction h with
  | done => exact h'
  | @more op items level rest after hop h _ _ ihrest =>
    have hmore := Elaborates.more hop h (ihrest rfl)
    simpa using hmore
  | unit | brackets | plain | negated | expression => cases hp

/-- An expression can be continued at its end. -/
lemma Elaborates.append_term {op : Operator} (h : Elaborates unit .expression items level)
    (hop : op.isBinary = true) (hterm : Elaborates unit .term rest after) :
    Elaborates unit .expression (items ++ .operator op :: rest)
      (level ++ .operator op :: after) := by
  cases h with
  | @expression first firstLevel tail tailLevel hfirst htail =>
    have hmore := htail.tail_append (.more hop hterm .done)
    simpa using Elaborates.expression hfirst hmore

end Rules

/-! ## Derivation and elaboration -/

section Preparation

variable [Operand α ρ] {p : Phrase} {items level : List (Item α)}

omit [Operand α ρ] in
lemma forall_image_mem_append {β : Type} {f : β → Item α} {P : β → Prop} {rest : List (Item α)} :
    (∀ b, f b ∈ items ++ rest → P b) ↔ (∀ b, f b ∈ items → P b) ∧ ∀ b, f b ∈ rest → P b := by
  simp only [List.mem_append]
  constructor
  · intro h
    exact ⟨fun b hb => h b (.inl hb), fun b hb => h b (.inr hb)⟩
  · rintro ⟨hitems, hrest⟩ b (hb | hb)
    · exact hitems b hb
    · exact hrest b hb

lemma Elaborates.derives (h : Elaborates BuildsTo p items level) : Derives p items := by
  induction h with
  | unit h =>
    cases h with
    | operand h => exact .operand _
    | group h => exact .group h
  | brackets _ ih => exact .brackets ih
  | plain _ ih => exact .plain ih
  | negated _ ih => exact .negated ih
  | done => exact .done
  | more hop _ _ ih ihrest => exact .more hop ih ihrest
  | expression _ _ ih ihrest => exact .expression ih ihrest

lemma Elaborates.prepares (h : Elaborates BuildsTo p items level) :
    ∀ a, Item.operand a ∈ items → ∃ b, Operand.prepare a = .ok b := by
  induction h with
  | unit h =>
    cases h with
    | operand h => simp [h]
    | group h => simp
  | brackets _ ih => simpa [forall_image_mem_append] using ih
  | plain _ ih => exact ih
  | negated _ ih => simpa using ih
  | done => simp
  | more hop _ _ ih ihrest =>
    simp only [List.mem_cons, reduceCtorEq, false_or, forall_image_mem_append]
    exact ⟨ih, ihrest⟩
  | expression _ _ ih ihrest =>
    rw [forall_image_mem_append]
    exact ⟨ih, ihrest⟩

/-- Where groups are not admitted, there are none. -/
lemma Elaborates.group_notMem (h : Elaborates PreparesTo p items level) (inner : List (Item α)) :
    Item.group inner ∉ items := by
  induction h with
  | unit h =>
    cases h
    simp
  | brackets _ ih => simpa using ih
  | plain _ ih => exact ih
  | negated _ ih => simpa using ih
  | done => simp
  | more _ _ _ ih ihrest => simp [ih, ihrest]
  | expression _ _ ih ihrest => simp [ih, ihrest]

lemma Derives.elaborates (h : Derives p items)
    (hprepare : ∀ a, Item.operand a ∈ items → ∃ b, Operand.prepare a = .ok b) :
    ∃ level, Elaborates BuildsTo p items level := by
  induction h with
  | operand a =>
    obtain ⟨b, hb⟩ := hprepare a (by simp)
    exact ⟨_, .unit (.operand hb)⟩
  | group h => exact ⟨_, .unit (.group h)⟩
  | brackets _ ih =>
    simp only [List.mem_cons, reduceCtorEq, false_or, forall_image_mem_append] at hprepare
    obtain ⟨level, h⟩ := ih hprepare.1
    exact ⟨_, .brackets h⟩
  | plain _ ih =>
    obtain ⟨level, h⟩ := ih hprepare
    exact ⟨level, .plain h⟩
  | negated _ ih =>
    simp only [List.mem_cons, reduceCtorEq, false_or] at hprepare
    obtain ⟨level, h⟩ := ih hprepare
    exact ⟨_, .negated h⟩
  | done => exact ⟨[], .done⟩
  | more hop _ _ ih ihrest =>
    simp only [List.mem_cons, reduceCtorEq, false_or, forall_image_mem_append] at hprepare
    obtain ⟨level, h⟩ := ih hprepare.1
    obtain ⟨after, hrest⟩ := ihrest hprepare.2
    exact ⟨_, .more hop h hrest⟩
  | expression _ _ ih ihrest =>
    rw [forall_image_mem_append] at hprepare
    obtain ⟨level, h⟩ := ih hprepare.1
    obtain ⟨after, hrest⟩ := ihrest hprepare.2
    exact ⟨_, .expression h hrest⟩

end Preparation

end Grammar

end FileSieve
