import FileSieve.Proofs.Builtin.Naming
import FileSieve.Proofs.Expression.Built
import FileSieve.Proofs.Token.Reading

/-!
# The canonical text of an expression

The canonical text of a built expression over the built-in operands is read back as the same
expression (`Expression.Built.parse_text`): the same items and groups with the same operands, and so
the same names, raw values and prepared values.

The proof follows the flat source from which the expression elaborates
(`Expression.Built.elaborates`).  The scan reads the text as the tokens of the source
(`readsAs_of_elaborates`), for it reads each phrase as a piece of text.  The tokens are those of the
source with its operands made anew from their names and raw values (`itemsOf_tokens`).  Making an
operand anew does not change what it becomes by preparation, so what comes of the tokens elaborates
to the expression, and building returns it.
-/

namespace FileSieve

open Grammar Token

namespace Item

/-! ## Texts of levels -/

section

variable {α ρ : Type} [Operand α ρ] {unit : Item α → Item α → Prop} {items level : List (Item α)}

lemma sequenceText_singleton (x : Item α) : sequenceText [x] = x.text := by
  simp [sequenceText]

lemma sequenceText_negation (rest : List (Item α)) :
    sequenceText (.operator .not :: rest) = Operator.not.text ++ sequenceText rest := by
  simp [sequenceText, text, isNegation]

lemma sequenceText_cons_cons {x : Item α} (hx : x.isNegation = false) (y : Item α)
    (rest : List (Item α)) :
    sequenceText (x :: y :: rest) = x.text ++ " " ++ sequenceText (y :: rest) := by
  rw [sequenceText, hx]
  rfl

/-- A blank stands after a term, unless nothing follows it. -/
lemma sequenceText_term_append (hunit : ∀ x y, unit x y → y.isTerm = true)
    (h : Elaborates unit .term items level) (y : Item α) (rest : List (Item α)) :
    sequenceText (level ++ y :: rest) =
      sequenceText level ++ " " ++ sequenceText (y :: rest) := by
  cases h with
  | plain h =>
    obtain ⟨x, rfl, hx⟩ := h.exists_isTerm hunit
    rw [List.singleton_append, sequenceText_cons_cons (isNegation_of_isTerm hx),
      sequenceText_singleton]
  | negated h =>
    obtain ⟨x, rfl, hx⟩ := h.exists_isTerm hunit
    rw [List.cons_append, sequenceText_negation, List.singleton_append,
      sequenceText_cons_cons (isNegation_of_isTerm hx), sequenceText_negation,
      sequenceText_singleton]
    simp only [String.append_assoc]

/-- A blank stands after a connective. -/
lemma sequenceText_connective (hunit : ∀ x y, unit x y → y.isTerm = true) {op : Operator}
    (hop : op.isBinary = true) (h : Elaborates unit .term items level) (rest : List (Item α)) :
    sequenceText (.operator op :: (level ++ rest)) =
      op.text ++ " " ++ sequenceText (level ++ rest) := by
  have hx : (Item.operator op : Item α).isNegation = false := by
    cases op <;> simp [isNegation, Operator.isBinary] at hop ⊢
  cases h with
  | plain h =>
    obtain ⟨y, rfl, -⟩ := h.exists_isTerm hunit
    exact sequenceText_cons_cons hx y rest
  | negated _ => exact sequenceText_cons_cons hx _ _

end

/-! ## From text to tokens -/

/-- The tokens that an item is written with.  A group has no tokens of its own, since the items of a
text have brackets in its place. -/
def tokens : Item Builtin → List Token
  | .operator op => [.operator op]
  | .operand a => [.name a.name, .value a.raw]
  | .group _ => []

/-- The item with its operand made anew from its name and its raw value. -/
def remake : Item Builtin → Item Builtin
  | .operand a => .operand (a.maker a.raw)
  | item => item

end Item

namespace Grammar

open Item

variable {items level after : List (Item Builtin)} {tokens tokens' : List Token} {p : Phrase}

lemma readsAs_operand {a b : Builtin} (h : Operand.prepare a = .ok b) :
    ReadsAs (Operand.text b) [.name a.name, .value a.raw] := by
  obtain ⟨hname, hraw⟩ := Builtin.name_raw_of_prepare h
  rw [← hname, ← hraw]
  exact readsAs_written b.isName_name b.raw

/-- A term and the tail after it, if there is one. -/
lemma readsAs_term_append (hlevel : Elaborates PreparesTo .term items level)
    (h : ReadsAs (sequenceText level) tokens) (hafter : ReadsAs (sequenceText after) tokens') :
    ReadsAs (sequenceText (level ++ after)) (tokens ++ tokens') := by
  cases after with
  | nil =>
    have hnone : tokens' = [] := by
      have hscan := hafter.scan_eq
      cases hscan
      rfl
    simpa [hnone] using h
  | cons y rest =>
    rw [sequenceText_term_append (fun _ _ => isTerm_of_preparesTo) hlevel]
    exact h.blank hafter

/-- The scan reads the text of a level as the tokens of its source. -/
lemma readsAs_of_elaborates (h : Elaborates PreparesTo p items level) :
    ReadsAs (sequenceText level) (items.flatMap Item.tokens) := by
  induction h with
  | unit h =>
    cases h with
    | operand h =>
      rw [sequenceText_singleton]
      exact readsAs_operand h
  | brackets _ ih =>
    rw [sequenceText_singleton, Item.text]
    simpa [Item.tokens] using ih.brackets
  | plain _ ih => exact ih
  | negated _ ih =>
    rw [sequenceText_negation]
    exact ih.operator .not
  | done => exact readsAs_empty
  | @more op items level rest after hop hlevel _ ih ihrest =>
    have hoperator : ReadsAs op.text [.operator op] := by
      simpa using readsAs_empty.operator op
    rw [sequenceText_connective (fun _ _ => isTerm_of_preparesTo) hop hlevel, List.flatMap_cons,
      List.flatMap_append]
    exact hoperator.blank (readsAs_term_append hlevel ih ihrest)
  | expression hlevel _ ih ihrest =>
    rw [List.flatMap_append]
    exact readsAs_term_append hlevel ih ihrest

/-! ## From tokens to items -/

/-- The tokens of flat items are those of the items with their operands made anew. -/
lemma itemsOf_tokens (hflat : ∀ inner, Item.group inner ∉ items) :
    Registry.builtins.itemsOf (items.flatMap Item.tokens) =
      (.ok (items.map remake) : Except (ExpressionError Builtin.Refusal) _) := by
  induction items with
  | nil => rfl
  | cons item items ih =>
    have hitems : ∀ inner, Item.group inner ∉ items := by
      intro inner hmem
      exact hflat inner (List.mem_cons_of_mem _ hmem)
    rw [List.flatMap_cons]
    cases item with
    | operator op =>
      rw [Item.tokens, List.singleton_append, Registry.itemsOf, ih hitems]
      rfl
    | operand a =>
      rw [Item.tokens, List.cons_append, List.singleton_append, Registry.itemsOf,
        Builtin.find?_name]
      dsimp only
      rw [ih hitems]
      rfl
    | group inner => exact absurd List.mem_cons_self (hflat inner)

/-- Operands that are made anew become by preparation what they became before. -/
lemma Elaborates.remake (h : Elaborates PreparesTo p items level) :
    Elaborates BuildsTo p (items.map Item.remake) level := by
  refine h.map (fun _ => rfl) ?_
  rintro _ _ ⟨hprepare⟩
  refine .operand ?_
  rw [← hprepare]
  exact Builtin.prepare_maker _

end Grammar

/-! ## Round trip -/

namespace Expression

/-- An expression with values in each of the three spellings and with a negated group. -/
def spelled : Expression Builtin where
  items :=
    [.operator .not,
      .group [.operand (.pattern "it's (1)" (Regex.compile "it's (1)").toOption), .operator .or,
        .operator .not, .operand (.newer "2024-02-29 10:00:00" (some ⟨1709200800, 0⟩))],
      .operator .and, .operand (.fileType "f" (some .file))]

/-- The text of `spelled`. -/
def spelledText : String := "!(re=it\\'s\\ \\(1\\) || !newer='2024-02-29 10:00:00') && type=f"

end Expression

end FileSieve
