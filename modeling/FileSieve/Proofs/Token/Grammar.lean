import FileSieve.Proofs.Token.Run

/-!
# The lexical grammar

`Token.Lexes` describes, without reference to the scan, which texts have tokens and what the tokens
are.  A text is a sequence of operators and operands with blanks wherever one likes, and a name
without a value may stand at its very end.  An operand is a name, an `=` and a spelling of its value
(`Token.Spells`): quoted and verbatim, or without quotes, in which case something that cannot belong
to the value has to follow.

The main result `scan_eq_ok_iff` says that the scan accepts exactly this grammar, and that it
returns the tokens of the derivation.  From the grammar to the scan the equations of
`Proofs/Token/Run.lean` are enough.  The other direction needs to know what the scan expects while
it is inside an element: `ScanState.Continues` says it for each of the seven states, one character
preserves it backwards (`continues_of_step`), and so does a run.
-/

namespace FileSieve

open ScanState

namespace Token

/-! ## The grammar -/

/-- The names of operands: a letter, and then letters, numbers, `-` and `_`. -/
inductive IsName : List Char → Prop
  | intro {c : Char} {rest : List Char} (hc : Text.isLetter c = true)
      (hrest : ∀ d ∈ rest, isNameChar d = true) : IsName (c :: rest)

/-- The spellings of a value, in front of the text `rest`. -/
inductive Spells : (spelling : List Char) → (value : String) → (rest : List Char) → Prop
  /-- A quoted value is verbatim, and anything may follow. -/
  | quoted {value : String} (h : ∀ c ∈ value.toList, c ≠ '\'') (rest : List Char) :
      Spells ('\'' :: value.toList ++ ['\'']) value rest
  /-- A value without quotes does not start with one, and extends as far as it can. -/
  | bare {spelling rest : List Char} {value : String} (hquote : spelling.head? ≠ some '\'')
      (h : Bare spelling value.toList) (hends : Ends rest) : Spells spelling value rest

/-- The texts that have tokens, with their tokens. -/
inductive Lexes : List Char → List Token → Prop
  /-- The empty text. -/
  | nil : Lexes [] []
  /-- Blanks count for nothing. -/
  | blank {c : Char} {rest : List Char} {tokens : List Token} (hc : Text.isBlank c = true)
      (h : Lexes rest tokens) : Lexes (c :: rest) tokens
  /-- An operator. -/
  | operator (op : Operator) {rest : List Char} {tokens : List Token} (h : Lexes rest tokens) :
      Lexes (op.text.toList ++ rest) (.operator op :: tokens)
  /-- A name with its value. -/
  | operand {name value : String} {spelling rest : List Char} {tokens : List Token}
      (hname : IsName name.toList) (hvalue : Spells spelling value rest) (h : Lexes rest tokens) :
      Lexes (name.toList ++ '=' :: (spelling ++ rest)) (.name name :: .value value :: tokens)
  /-- A name at the end of the text. -/
  | loneName {name : String} (hname : IsName name.toList) : Lexes name.toList [.name name]

end Token

open Token

/-! ## The scan accepts what the grammar derives -/

namespace ScanState

lemma run_start_name {text : String} (h : IsName text.toList) (rest : List Char) :
    start.run (text.toList ++ rest) = (name text).run rest := by
  generalize hcs : text.toList = cs at h
  obtain ⟨hc, hrest⟩ := h
  next c cs' =>
  have htext : String.singleton c ++ String.ofList cs' = text := by
    apply String.toList_injective
    simp [hcs]
  rw [List.cons_append, run_start_letter hc, run_name_append _ hrest, htext]

lemma run_valueStart_spelling {spelling rest : List Char} {value : String}
    (h : Spells spelling value rest) :
    valueStart.run (spelling ++ rest) = after [.value value] (start.run rest) := by
  cases h with
  | quoted h =>
    have hshape : '\'' :: value.toList ++ ['\''] ++ rest =
        '\'' :: (value.toList ++ '\'' :: rest) := by simp
    rw [hshape, run_valueStart_quote, run_quoted_close "" h]
    simp
  | bare hquote h hends =>
    have hhead : (spelling ++ rest).head? ≠ some '\'' := by
      cases spelling with
      | nil =>
        intro hcon
        have := hends '\'' hcon
        rw [endsValue_quote] at this
        contradiction
      | cons c cs => exact hquote
    rw [run_valueStart_of_ne_quote hhead, run_bare_append "" h, run_bare_ends _ hends]
    simp

lemma run_start_operand {text value : String} {spelling rest : List Char}
    (hname : IsName text.toList) (hvalue : Spells spelling value rest) :
    start.run (text.toList ++ '=' :: (spelling ++ rest)) =
      after [.name text, .value value] (start.run rest) := by
  rw [run_start_name hname, run_name_equals, run_valueStart_spelling hvalue, after_after]
  rfl

lemma run_of_lexes {cs : List Char} {tokens : List Token} (h : Lexes cs tokens) :
    start.run cs = .ok tokens := by
  induction h with
  | nil => rfl
  | blank hc _ ih => rw [run_start_blank hc, ih]
  | operator op _ ih =>
    rw [run_start_operator, ih]
    rfl
  | operand hname hvalue _ ih =>
    rw [run_start_operand hname hvalue, ih]
    rfl
  | @loneName text hname =>
    rw [← List.append_nil text.toList, run_start_name hname]
    rfl

/-! ## The grammar derives what the scan accepts -/

/-- What is left of a text may be `cs`, and completes the given tokens, when the scan is in a state:
the rest of the element under way, and then a text of the grammar. -/
def Continues : ScanState → List Char → List Token → Prop
  | start, cs, tokens => Lexes cs tokens
  | pending connective, cs, tokens => ∃ rest more, cs = connective.mark :: rest ∧
      tokens = .operator connective.operator :: more ∧ Lexes rest more
  | name text, cs, tokens => ∃ letters, (∀ c ∈ letters, isNameChar c = true) ∧
      (cs = letters ∧ tokens = [.name (text ++ String.ofList letters)] ∨
        ∃ spelling value rest more, cs = letters ++ '=' :: (spelling ++ rest) ∧
          tokens = .name (text ++ String.ofList letters) :: .value value :: more ∧
          Spells spelling value rest ∧ Lexes rest more)
  | valueStart, cs, tokens => ∃ spelling value rest more, cs = spelling ++ rest ∧
      tokens = .value value :: more ∧ Spells spelling value rest ∧ Lexes rest more
  | bare text, cs, tokens => ∃ spelling value rest more, cs = spelling ++ rest ∧
      tokens = .value (text ++ String.ofList value) :: more ∧ Bare spelling value ∧ Ends rest ∧
      Lexes rest more
  | quoted text, cs, tokens => ∃ value rest more, cs = value ++ '\'' :: rest ∧
      tokens = .value (text ++ String.ofList value) :: more ∧ (∀ c ∈ value, c ≠ '\'') ∧
      Lexes rest more
  | escaped text, cs, tokens => ∃ c spelling value rest more, cs = c :: (spelling ++ rest) ∧
      tokens = .value (text ++ String.ofList (c :: value)) :: more ∧ Bare spelling value ∧
      Ends rest ∧ Lexes rest more

lemma continues_of_finish {s : ScanState} {tokens : List Token} (h : s.finish = .ok tokens) :
    s.Continues [] tokens := by
  cases s with
  | start =>
    cases h
    exact .nil
  | name text =>
    cases h
    exact ⟨[], by simp, .inl ⟨rfl, by simp⟩⟩
  | valueStart =>
    cases h
    exact ⟨[], "", [], [], rfl, rfl, .bare (by simp) .nil ends_nil, .nil⟩
  | bare text =>
    cases h
    exact ⟨[], [], [], [], rfl, by simp, .nil, ends_nil, .nil⟩
  | pending | quoted | escaped => cases h

/-! ### One character -/

variable {c : Char} {next : ScanState} {rest : List Char} {out more : List Token}

lemma continues_start (hstep : stepStart c = .ok (out, next)) (h : next.Continues rest more) :
    start.Continues (c :: rest) (out ++ more) := by
  simp only [stepStart] at hstep
  split at hstep
  · next hblank =>
    cases hstep
    exact .blank hblank h
  split at hstep
  · next hc =>
    cases hstep
    subst hc
    exact .operator .openBracket h
  split at hstep
  · next hc =>
    cases hstep
    subst hc
    exact .operator .closeBracket h
  split at hstep
  · next hc =>
    cases hstep
    subst hc
    exact .operator .not h
  split at hstep
  · next hc =>
    cases hstep
    subst hc
    obtain ⟨rest, more, rfl, rfl, h⟩ := h
    exact .operator .and h
  split at hstep
  · next hc =>
    cases hstep
    subst hc
    obtain ⟨rest, more, rfl, rfl, h⟩ := h
    exact .operator .or h
  split at hstep
  · next hletter =>
    cases hstep
    obtain ⟨letters, hletters, ⟨rfl, rfl⟩ | ⟨spelling, value, rest, more, rfl, rfl, hvalue, h⟩⟩ := h
    · have hname : IsName (String.singleton c ++ String.ofList rest).toList := by
        simpa using IsName.intro hletter hletters
      simpa [Continues] using Lexes.loneName hname
    · have hname : IsName (String.singleton c ++ String.ofList letters).toList := by
        simpa using IsName.intro hletter hletters
      simpa [Continues] using Lexes.operand hname hvalue h
  · cases hstep

lemma continues_pending {connective : Connective}
    (hstep : stepPending connective c = .ok (out, next)) (h : next.Continues rest more) :
    (pending connective).Continues (c :: rest) (out ++ more) := by
  simp only [stepPending] at hstep
  split at hstep
  · next hc =>
    cases hstep
    exact ⟨rest, more, by rw [hc], rfl, h⟩
  · cases hstep

lemma continues_name {text : String} (hstep : stepName text c = .ok (out, next))
    (h : next.Continues rest more) : (name text).Continues (c :: rest) (out ++ more) := by
  simp only [stepName] at hstep
  split at hstep
  · next hc =>
    cases hstep
    subst hc
    obtain ⟨spelling, value, rest, more, rfl, rfl, hvalue, h⟩ := h
    exact ⟨[], by simp, .inr ⟨spelling, value, rest, more, rfl, by simp, hvalue, h⟩⟩
  split at hstep
  · next hc =>
    cases hstep
    have hc : isNameChar c = true := by simpa [isNameChar] using hc
    obtain ⟨letters, hletters, ⟨rfl, rfl⟩ | ⟨spelling, value, rest, more, rfl, rfl, hvalue, h⟩⟩ := h
    · exact ⟨c :: rest, List.forall_mem_cons.mpr ⟨hc, hletters⟩,
        .inl ⟨rfl, by simp [push_append_ofList]⟩⟩
    · exact ⟨c :: letters, List.forall_mem_cons.mpr ⟨hc, hletters⟩,
        .inr ⟨spelling, value, rest, more, rfl, by simp [push_append_ofList], hvalue, h⟩⟩
  · cases hstep

/-- A character that ends a value leaves the scan with nothing but the value, whatever the
character does between elements. -/
lemma continues_bare_of_endsValue {text : String} (hc : endsValue c = true)
    (hstep : stepBare text c = (out, next)) (h : next.Continues rest more) :
    (bare text).Continues (c :: rest) (out ++ more) := by
  obtain ⟨tokens, following, hstart, hbare⟩ := step_bare_of_endsValue text hc
  obtain ⟨rfl, rfl⟩ : out = .value text :: tokens ∧ next = following := by
    have hsame := hbare.symm.trans (congrArg Except.ok hstep)
    simp only [Except.ok.injEq, Prod.mk.injEq] at hsame
    exact ⟨hsame.1.symm, hsame.2.symm⟩
  exact ⟨[], [], c :: rest, tokens ++ more, rfl, by simp, .nil, ends_cons hc rest,
    continues_start hstart h⟩

lemma continues_bare {text : String} (hstep : stepBare text c = (out, next))
    (h : next.Continues rest more) : (bare text).Continues (c :: rest) (out ++ more) := by
  by_cases hends : endsValue c = true
  · exact continues_bare_of_endsValue hends hstep h
  by_cases hesc : c = '\\'
  · simp only [stepBare, if_pos hesc, Prod.mk.injEq] at hstep
    obtain ⟨rfl, rfl⟩ := hstep
    obtain ⟨d, spelling, value, rest, more, rfl, rfl, hvalue, hrest, h⟩ := h
    subst hesc
    exact ⟨_, _, rest, more, by simp, by simp, .escaped d hvalue, hrest, h⟩
  · have hends : endsValue c = false := by simpa using hends
    rw [stepBare_of_plain text hends hesc, Prod.mk.injEq] at hstep
    obtain ⟨rfl, rfl⟩ := hstep
    obtain ⟨spelling, value, rest, more, rfl, rfl, hvalue, hrest, h⟩ := h
    exact ⟨c :: spelling, c :: value, rest, more, by simp, by simp [push_append_ofList],
      .plain hends hesc hvalue, hrest, h⟩

lemma continues_quoted {text : String} (hstep : stepQuoted text c = (out, next))
    (h : next.Continues rest more) : (quoted text).Continues (c :: rest) (out ++ more) := by
  simp only [stepQuoted] at hstep
  split at hstep
  · next hc =>
    cases hstep
    exact ⟨[], rest, more, by simp [hc], by simp, by simp, h⟩
  · next hc =>
    cases hstep
    obtain ⟨value, rest, more, rfl, rfl, hvalue, h⟩ := h
    exact ⟨c :: value, rest, more, by simp, by simp [push_append_ofList],
      List.forall_mem_cons.mpr ⟨hc, hvalue⟩, h⟩

lemma continues_valueStart (hstep : valueStart.step c = .ok (out, next))
    (h : next.Continues rest more) : valueStart.Continues (c :: rest) (out ++ more) := by
  simp only [step] at hstep
  split at hstep
  · next hc =>
    cases hstep
    subst hc
    obtain ⟨value, rest, more, rfl, rfl, hvalue, h⟩ := h
    have hspells : Spells ('\'' :: (String.ofList value).toList ++ ['\''])
        (String.ofList value) rest := .quoted (by simpa using hvalue) rest
    exact ⟨'\'' :: value ++ ['\''], String.ofList value, rest, more, by simp, by simp,
      by simpa using hspells, h⟩
  · next hc =>
    obtain ⟨spelling, value, rest', more', hcs, htokens, hvalue, hrest, h⟩ :=
      continues_bare (Except.ok.inj hstep) h
    have hquote : spelling.head? ≠ some '\'' := by
      cases spelling with
      | nil => simp
      | cons d ds =>
        obtain ⟨rfl, -⟩ := List.cons.inj hcs
        simpa using hc
    exact ⟨spelling, String.ofList value, rest', more', hcs, by simpa using htokens,
      .bare hquote (by simpa using hvalue) hrest, h⟩

/-- If the scan can continue after a character, it could continue before it. -/
lemma continues_of_step {s : ScanState} (hstep : s.step c = .ok (out, next))
    (h : next.Continues rest more) : s.Continues (c :: rest) (out ++ more) := by
  cases s with
  | start => exact continues_start hstep h
  | pending connective => exact continues_pending hstep h
  | name text => exact continues_name hstep h
  | valueStart => exact continues_valueStart hstep h
  | bare text => exact continues_bare (Except.ok.inj hstep) h
  | quoted text => exact continues_quoted (Except.ok.inj hstep) h
  | escaped text =>
    cases hstep
    obtain ⟨spelling, value, rest, more, rfl, rfl, hvalue, hrest, h⟩ := h
    exact ⟨c, spelling, value, rest, more, rfl, by simp [push_append_ofList], hvalue, hrest, h⟩

/-! ### Whole texts -/

lemma continues_of_run {s : ScanState} {cs : List Char} {tokens : List Token}
    (h : s.run cs = .ok tokens) : s.Continues cs tokens := by
  induction cs generalizing s tokens with
  | nil => exact continues_of_finish h
  | cons c cs ih =>
    obtain ⟨out, next, more, hstep, hrun, rfl⟩ := run_cons_eq_ok_iff.mp h
    exact continues_of_step hstep (ih hrun)

end ScanState

namespace Token

/-- **The scan accepts exactly the lexical grammar.**  A text has tokens if and only if the grammar
derives it, and they are those of the derivation. -/
theorem scan_eq_ok_iff (text : String) (tokens : List Token) :
    scan text = .ok tokens ↔ Lexes text.toList tokens := by
  constructor
  · intro h
    exact continues_of_run h
  · intro h
    exact run_of_lexes h

/-- Elements need no blanks between them, and a lone name is a token where the text ends. -/
example : scan "re=it\'s&&!(x='b c')y" =
    .ok [.name "re", .value "it's", .operator .and, .operator .not, .operator .openBracket,
      .name "x", .value "b c", .operator .closeBracket, .name "y"] := by
  decide

end Token

end FileSieve
