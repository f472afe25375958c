import Mathlib.Data.Nat.Find
import FileSieve.Builtin
import FileSieve.Proofs.Expression.Built
import FileSieve.Proofs.Token.Grammar

/-!
# The phases of parsing

A text becomes an expression in three phases: the scan reads it into tokens, the registry makes the
tokens into items, and building makes the items into an expression.  Each phase fails in its own way
and before anything of the next one happens; in particular no operand is prepared before all names
are resolved.  `Registry.parse_phases` says which phase decides, and with which error.

The second phase looks at one name after the other.  What it asks of a name is in
`Registry.nameFault?`: it has to have a value, and then to be registered.  The tokens of a text are
in good shape for that (`Token.Paired`): a value stands directly after its name and nowhere else,
and a name without a value is the last token.  What comes of tokens without faults is described by
`Token.Resolves`, in terms of any relation between names and factories.
-/

namespace FileSieve

variable {α ρ : Type}

/-! ## The tokens of a text -/

namespace Token

/-- The sequences of tokens in which a value stands directly after its name and nowhere else, and
only the last token may be a name without a value. -/
inductive Paired : List Token → Prop
  | nil : Paired []
  | operator (op : Operator) {rest : List Token} (h : Paired rest) : Paired (.operator op :: rest)
  | operand (name value : String) {rest : List Token} (h : Paired rest) :
      Paired (.name name :: .value value :: rest)
  | loneName (name : String) : Paired [.name name]

lemma paired_of_lexes {cs : List Char} {tokens : List Token} (h : Lexes cs tokens) :
    Paired tokens := by
  induction h with
  | nil => exact .nil
  | blank _ _ ih => exact ih
  | operator op _ ih => exact .operator op ih
  | operand _ _ _ ih => exact .operand _ _ ih
  | loneName _ => exact .loneName _

lemma paired_of_scan {text : String} {tokens : List Token} (h : scan text = .ok tokens) :
    Paired tokens :=
  paired_of_lexes (ScanState.continues_of_run h)

/-- A name without a value can only be the last token. -/
lemma Paired.eq_length_of_loneName {tokens : List Token} (h : Paired tokens) {k : ℕ}
    {name : String} (hname : tokens[k]? = some (.name name))
    (hvalue : ∀ value, tokens[k + 1]? ≠ some (.value value)) : k + 1 = tokens.length := by
  induction h generalizing k with
  | nil => simp at hname
  | operator op _ ih =>
    cases k with
    | zero => simp at hname
    | succ k => simpa using ih (by simpa using hname) (by simpa using hvalue)
  | operand name value _ ih =>
    match k with
    | 0 => simp at hvalue
    | 1 => simp at hname
    | k + 2 => simpa using ih (by simpa using hname) (by simpa using hvalue)
  | loneName name =>
    cases k with
    | zero => rfl
    | succ k => simp at hname

/-- The items that tokens stand for, where `binds` tells which factories a name may stand for: an
operator stands for itself, and a name together with its value for an operand. -/
inductive Resolves (binds : String → Factory α → Prop) : List Token → List (Item α) → Prop
  | nil : Resolves binds [] []
  | operator (op : Operator) {rest : List Token} {items : List (Item α)}
      (h : Resolves binds rest items) :
      Resolves binds (.operator op :: rest) (.operator op :: items)
  | operand {name : String} (value : String) {factory : Factory α} {rest : List Token}
      {items : List (Item α)} (hname : binds name factory) (h : Resolves binds rest items) :
      Resolves binds (.name name :: .value value :: rest) (.operand (factory name value) :: items)

end Token

/-! ## Names that stand for no operand -/

/-- What can be wrong with a name. -/
inductive NameFault
  /-- There is no value after it. -/
  | missingValue (name : String)
  /-- It is not registered. -/
  | unsupported (name : String)
  deriving DecidableEq, Repr

/-- The error that a fault is reported as. -/
def NameFault.error : NameFault → ExpressionError ρ
  | .missingValue name => .missingOperandValue name
  | .unsupported name => .unsupportedOperand name

namespace Registry

/-- What is wrong with the token at a place, if it is a name: it has no value, whether or not it is
registered, or it has one and is not registered. -/
def nameFault? (r : Registry α) (tokens : List Token) (k : ℕ) : Option NameFault :=
  match tokens[k]?, tokens[k + 1]? with
  | some (.name name), some (.value _) =>
    if r.contains name then none else some (.unsupported name)
  | some (.name name), _ => some (.missingValue name)
  | _, _ => none

variable {r : Registry α} {tokens : List Token}

@[simp] lemma nameFault?_operator_zero (op : Operator) :
    r.nameFault? (.operator op :: tokens) 0 = none := rfl

@[simp] lemma nameFault?_value_zero (value : String) :
    r.nameFault? (.value value :: tokens) 0 = none := rfl

@[simp] lemma nameFault?_name_zero (name value : String) :
    r.nameFault? (.name name :: .value value :: tokens) 0 =
      if r.contains name then none else some (.unsupported name) := rfl

@[simp] lemma nameFault?_loneName (name : String) :
    r.nameFault? [.name name] 0 = some (.missingValue name) := rfl

@[simp] lemma nameFault?_cons_succ (token : Token) (k : ℕ) :
    r.nameFault? (token :: tokens) (k + 1) = r.nameFault? tokens k := rfl

/-! ## From tokens to items -/

/-- The items of tokens are found by looking up each name. -/
lemma itemsOf_eq_ok_iff {items : List (Item α)} :
    r.itemsOf tokens = (.ok items : Except (ExpressionError ρ) (List (Item α))) ↔
      Token.Resolves (fun name factory => r.find? name = some factory) tokens items := by
  constructor
  · intro h
    fun_induction itemsOf (ρ := ρ) r tokens generalizing items with
    | case1 =>
      cases h
      exact .nil
    | case2 op rest ih =>
      obtain ⟨more, hrest, rfl⟩ := map_eq_ok_iff.mp h
      exact .operator op (ih hrest)
    | case4 name value rest factory hfind ih =>
      obtain ⟨more, hrest, rfl⟩ := map_eq_ok_iff.mp h
      exact .operand value hfind (ih hrest)
    | case3 | case5 | case6 => cases h
  · intro h
    induction h with
    | nil => rfl
    | operator op _ ih =>
      rw [itemsOf, ih]
      rfl
    | operand value hname _ ih =>
      simp only [itemsOf, hname, ih]
      rfl

/-- Where every name has a value and is registered, tokens have items. -/
lemma exists_resolves_of_paired (h : Token.Paired tokens)
    (hfree : ∀ k, r.nameFault? tokens k = none) :
    ∃ items, Token.Resolves (fun name factory => r.find? name = some factory) tokens items := by
  induction h with
  | nil => exact ⟨[], .nil⟩
  | operator op _ ih =>
    obtain ⟨items, hitems⟩ := ih fun k => by simpa using hfree (k + 1)
    exact ⟨_, .operator op hitems⟩
  | operand name value _ ih =>
    obtain ⟨items, hitems⟩ := ih fun k => by simpa using hfree (k + 2)
    have hname : r.contains name = true := by simpa using hfree 0
    obtain ⟨factory, hfactory⟩ := Option.isSome_iff_exists.mp hname
    exact ⟨_, .operand value hfactory hitems⟩
  | loneName name => simpa using hfree 0

/-- The leftmost faulty name decides. -/
lemma itemsOf_eq_error_of_paired (h : Token.Paired tokens) {k : ℕ} {fault : NameFault}
    (hfault : r.nameFault? tokens k = some fault)
    (hleft : ∀ j < k, r.nameFault? tokens j = none) :
    r.itemsOf tokens = (.error fault.error : Except (ExpressionError ρ) (List (Item α))) := by
  induction h generalizing k with
  | nil => simp [nameFault?] at hfault
  | operator op _ ih =>
    cases k with
    | zero => simp at hfault
    | succ k =>
      rw [itemsOf, ih (by simpa using hfault) fun j hj => by simpa using hleft (j + 1) (by omega)]
      rfl
  | operand name value _ ih =>
    match k with
    | 0 =>
      obtain ⟨hname, rfl⟩ : r.contains name = false ∧ NameFault.unsupported name = fault := by
        simpa using hfault
      rw [contains, Option.isSome_eq_false_iff, Option.isNone_iff_eq_none] at hname
      simp only [itemsOf, hname]
      rfl
    | 1 => simp at hfault
    | k + 2 =>
      have hname : r.contains name = true := by simpa using hleft 0 (by omega)
      obtain ⟨factory, hfactory⟩ := Option.isSome_iff_exists.mp hname
      have hrest := ih (by simpa using hfault) fun j hj => by simpa using hleft (j + 2) (by omega)
      simp only [itemsOf, hfactory, hrest]
      rfl
  | loneName name =>
    cases k with
    | zero =>
      obtain rfl : NameFault.missingValue name = fault := by simpa using hfault
      rfl
    | succ k => simp [nameFault?] at hfault

end Registry

/-! ## The errors of building -/

/-- The errors that building reports: a fault of grammar, or the refusal of an operand. -/
inductive ExpressionError.OfBuilding : ExpressionError ρ → Prop
  | grammar (e : GrammarError) : OfBuilding (.grammar e)
  | operand (reason : ρ) : OfBuilding (.operand reason)

variable [Operand α ρ]

namespace Build

lemma place_error_ofBuilding {outer : List (List (Item α))} {level items : List (Item α)}
    {e : ExpressionError ρ} (h : (place outer level items).result = .error e) :
    e.OfBuilding := by
  fun_induction place outer level items with
  | case1 => cases h
  | case2 | case3 | case4 | case8 | case10 =>
    cases h
    exact .grammar _
  | case5 =>
    cases h
    exact .operand _
  | case6 _ _ _ _ _ _ _ ih => exact ih h
  | case7 _ _ _ _ ih => exact ih h
  | case9 _ _ _ _ _ _ ih => exact ih h
  | case11 _ _ _ _ _ _ _ _ ih => exact ih h

end Build

lemma Expression.error_ofBuilding {items : List (Item α)} {e : ExpressionError ρ}
    (h : build items = .error e) : e.OfBuilding := by
  cases items with
  | nil => cases h
  | cons item rest =>
    rw [build, Build.items] at h
    split at h
    · cases hplace : (Build.place [] [] (item :: rest)).result with
      | ok level =>
        rw [hplace] at h
        cases h
      | error e' =>
        rw [hplace] at h
        cases h
        exact Build.place_error_ofBuilding hplace
    · cases h
      exact .grammar _

/-! ## Phases -/

namespace Registry

variable {r : Registry α} {text : String} {tokens : List Token}

lemma parse_of_scan_error {e : LexicalError} (h : Token.scan text = .error e) :
    r.parse text = .error (.lexical e) ∧ r.preparations text = [] := by
  simp only [parse, preparations, items, h]
  exact ⟨rfl, trivial⟩

lemma parse_of_nameFault? (h : Token.scan text = .ok tokens) {k : ℕ} {fault : NameFault}
    (hfault : r.nameFault? tokens k = some fault)
    (hleft : ∀ j < k, r.nameFault? tokens j = none) :
    r.parse text = .error fault.error ∧ r.preparations text = [] := by
  have hitems := itemsOf_eq_error_of_paired (ρ := ρ) (Token.paired_of_scan h) hfault hleft
  simp only [parse, preparations, items, h, hitems]
  exact ⟨rfl, trivial⟩

lemma parse_of_resolves (h : Token.scan text = .ok tokens) {items : List (Item α)}
    (hitems : Token.Resolves (fun name factory => r.find? name = some factory) tokens items) :
    r.parse text = Expression.build items ∧
      r.preparations text = Expression.preparations items := by
  have hitems := (itemsOf_eq_ok_iff (ρ := ρ)).mpr hitems
  simp only [parse, preparations, Registry.items, h, hitems]
  exact ⟨rfl, trivial⟩

/-- If some name is faulty, then there is a leftmost one. -/
lemma exists_leftmost_nameFault? {k : ℕ} (h : r.nameFault? tokens k ≠ none) :
    ∃ k fault, r.nameFault? tokens k = some fault ∧ ∀ j < k, r.nameFault? tokens j = none := by
  have hex : ∃ k, r.nameFault? tokens k ≠ none := ⟨k, h⟩
  obtain ⟨fault, hfault⟩ := Option.ne_none_iff_exists'.mp (Nat.find_spec hex)
  refine ⟨Nat.find hex, fault, hfault, fun j hj => ?_⟩
  simpa using Nat.find_min hex hj

/-- A text with tokens fails on account of a faulty name, or in building. -/
lemma error_cases (h : Token.scan text = .ok tokens) {e : ExpressionError ρ}
    (he : r.parse text = .error e) :
    (∃ k fault, r.nameFault? tokens k = some fault ∧ e = fault.error) ∨
      (∀ k, r.nameFault? tokens k = none) ∧ e.OfBuilding := by
  by_cases hfree : ∀ k, r.nameFault? tokens k = none
  · obtain ⟨items, hitems⟩ := exists_resolves_of_paired (Token.paired_of_scan h) hfree
    rw [(parse_of_resolves h hitems).1] at he
    exact .inr ⟨hfree, Expression.error_ofBuilding he⟩
  · obtain ⟨k, hk⟩ := not_forall.mp hfree
    obtain ⟨k, fault, hfault, hleft⟩ := exists_leftmost_nameFault? hk
    rw [(parse_of_nameFault? h hfault hleft).1] at he
    exact .inl ⟨k, fault, hfault, (Except.error.inj he).symm⟩

/-- The lexical failures of parsing are those of the scan. -/
lemma exists_isLexical_iff :
    (∃ e, r.parse text = .error e ∧ e.isLexical = true) ↔ ∃ e, Token.scan text = .error e := by
  constructor
  · rintro ⟨e, he, hlexical⟩
    cases hscan : Token.scan text with
    | error e => exact ⟨e, rfl⟩
    | ok tokens =>
      obtain ⟨k, fault, -, rfl⟩ | ⟨-, hbuild⟩ := error_cases hscan he
      · cases fault <;> contradiction
      · cases hbuild <;> contradiction
  · rintro ⟨e, he⟩
    exact ⟨_, (parse_of_scan_error he).1, rfl⟩

/-- A text with tokens fails on account of a name if one of its names is faulty, and only then. -/
lemma exists_nameFault_iff (h : Token.scan text = .ok tokens) :
    (∃ fault : NameFault, r.parse text = .error fault.error) ↔
      ∃ k, r.nameFault? tokens k ≠ none := by
  constructor
  · rintro ⟨fault, hparse⟩
    obtain ⟨k, fault, hfault, -⟩ | ⟨-, hbuild⟩ := error_cases h hparse
    · exact ⟨k, by simp [hfault]⟩
    · cases fault <;> nomatch hbuild
  · rintro ⟨k, hk⟩
    obtain ⟨k, fault, hfault, hleft⟩ := exists_leftmost_nameFault? hk
    exact ⟨fault, (parse_of_nameFault? h hfault hleft).1⟩

lemma parse_ne_unexpectedToken (token : String) :
    r.parse text ≠ .error (.unexpectedToken token) := by
  intro h
  cases hscan : Token.scan text with
  | error e =>
    rw [(parse_of_scan_error hscan).1] at h
    cases h
  | ok tokens =>
    obtain ⟨k, fault, -, herror⟩ | ⟨-, hbuild⟩ := error_cases hscan h
    · cases fault <;> contradiction
    · nomatch hbuild

/-- **Parsing fails in phases.**  If a text has no tokens, then parsing fails with the error of the
scan, and no other failure is lexical.  If it has tokens but one of its names has no value or is not
registered, then parsing fails on account of the leftmost such name, and no operand has been
prepared.  Otherwise parsing is building the items of the tokens.  A value without a name is never
met. -/
theorem parse_phases (r : Registry α) (text : String) :
    ((∃ e, r.parse text = .error e ∧ e.isLexical = true) ↔ ∃ e, Token.scan text = .error e) ∧
    (∀ e, Token.scan text = .error e →
      r.parse text = .error (.lexical e) ∧ r.preparations text = []) ∧
    (∀ tokens, Token.scan text = .ok tokens →
      ((∃ name, r.parse text = .error (.unsupportedOperand name) ∨
          r.parse text = .error (.missingOperandValue name)) ↔
        ∃ k, r.nameFault? tokens k ≠ none) ∧
      (∀ k fault, r.nameFault? tokens k = some fault →
        (∀ j < k, r.nameFault? tokens j = none) →
          r.parse text = .error fault.error ∧ r.preparations text = []) ∧
      (∀ k name, tokens[k]? = some (.name name) →
        (∀ value, tokens[k + 1]? ≠ some (.value value)) → k + 1 = tokens.length) ∧
      ((∀ k, r.nameFault? tokens k = none) → ∃ items,
        Token.Resolves (fun name factory => r.find? name = some factory) tokens items ∧
          r.parse text = Expression.build items ∧
          r.preparations text = Expression.preparations items)) ∧
    ∀ token, r.parse text ≠ .error (.unexpectedToken token) := by
  refine ⟨exists_isLexical_iff, fun e h => parse_of_scan_error h, ?_, parse_ne_unexpectedToken⟩
  intro tokens h
  have hpaired := Token.paired_of_scan h
  refine ⟨?_, ?_, ?_, ?_⟩
  · rw [← exists_nameFault_iff h]
    constructor
    · rintro ⟨name, hunsupported | hmissing⟩
      · exact ⟨.unsupported name, hunsupported⟩
      · exact ⟨.missingValue name, hmissing⟩
    · rintro ⟨⟨name⟩ | ⟨name⟩, hparse⟩
      · exact ⟨name, .inr hparse⟩
      · exact ⟨name, .inl hparse⟩
  · intro k fault hfault hleft
    exact parse_of_nameFault? h hfault hleft
  · intro k name hname hvalue
    exact hpaired.eq_length_of_loneName hname hvalue
  · intro hfree
    obtain ⟨items, hitems⟩ := exists_resolves_of_paired hpaired hfree
    exact ⟨items, hitems, parse_of_resolves h hitems⟩

/-- The tokens of a text with a value that no operand takes, an unknown name and a name without a
value. -/
def faultyTokens : List Token :=
  [.name "type", .value "q", .operator .or, .name "colour", .value "red", .operator .and,
    .name "newer"]

theorem parse_phases_faultyTokens :
    Token.scan "type=q || colour=red && newer" = .ok faultyTokens ∧
      builtins.nameFault? faultyTokens 3 = some (.unsupported "colour") ∧
      builtins.nameFault? faultyTokens 6 = some (.missingValue "newer") ∧
      builtins.parse "type=q || colour=red && newer" = .error (.unsupportedOperand "colour") ∧
      builtins.preparations "type=q || colour=red && newer" = [] := by
  have hscan : Token.scan "type=q || colour=red && newer" = .ok faultyTokens := by decide
  have hfault : builtins.nameFault? faultyTokens 3 = some (.unsupported "colour") := by rfl
  have hleft : ∀ j < 3, builtins.nameFault? faultyTokens j = none := by
    intro j hj
    match j with
    | 0 | 1 | 2 => rfl
  obtain ⟨-, -, hphases, -⟩ := parse_phases builtins "type=q || colour=red && newer"
  obtain ⟨-, hleftmost, -⟩ := hphases faultyTokens hscan
  exact ⟨hscan, hfault, rfl, hleftmost 3 _ hfault hleft⟩

end Registry

end FileSieve
