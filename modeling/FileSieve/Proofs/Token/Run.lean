import FileSieve.Proofs.Outcome
import FileSieve.Token.Scan

/-!
# Runs of the scan over whole elements

`ScanState.run` takes a text one character at a time.  This file says what it does with the
elements that a text is made of: operators, names, and values in either of their spellings.  Each
statement is an equation that leaves the rest of the text free and says nothing about how the rest
is read, so it serves texts that have tokens and texts that have none.  The tokens that an element
contributes stand before whatever the rest comes to (`ScanState.after`).

Between elements there are `run_start_blank`, `run_start_operator` and `run_start_letter`.  A name
is read by `run_name_append` and left by `run_name_equals`.  A quoted value is read and left by
`run_quoted_close`; one without quotes is read by `run_bare_append` and left by `run_bare_ends`.
Its spellings are described by `Bare`, which pairs each with the value that it stands for, and
`endsValue` lists the characters that stop it.

The equations need no side conditions between classes of characters, because no letter and no number
is blank (`isLetter_eq_false_of_isBlank`, `isLetterOrNumber_eq_false_of_isBlank`), facts about the
tables of the character database.
-/

namespace FileSieve

/-! ## Classes of characters -/

namespace Text

/-- The code points that are blank. -/
def blankPoints : List Nat :=
  [9, 10, 11, 12, 13, 0x20, 0x85, 0xA0, 0x1680, 0x2000, 0x2001, 0x2002, 0x2003, 0x2004, 0x2005,
    0x2006, 0x2007, 0x2008, 0x2009, 0x200A, 0x2028, 0x2029, 0x202F, 0x205F, 0x3000]

lemma toNat_mem_blankPoints {c : Char} (h : isBlank c = true) : c.toNat ∈ blankPoints := by
  simp only [isBlank, Bool.or_eq_true, Bool.and_eq_true, decide_eq_true_eq, beq_iff_eq] at h
  simp only [blankPoints, List.mem_cons, List.not_mem_nil, or_false]
  omega

lemma alphabetic_contains_of_mem_blankPoints :
    ∀ n ∈ blankPoints, alphabetic.contains n = false := by
  decide +kernel

lemma numeric_contains_of_mem_blankPoints :
    ∀ n ∈ blankPoints, numeric.contains n = false := by
  decide +kernel

lemma le_toNat_of_isAlpha {c : Char} (h : c.isAlpha = true) : 65 ≤ c.toNat := by
  change (decide ('A'.val ≤ c.val ∧ c.val ≤ 'Z'.val) ||
    decide ('a'.val ≤ c.val) && decide (c.val ≤ 'z'.val)) = true at h
  simp only [Bool.or_eq_true, Bool.and_eq_true, decide_eq_true_eq, UInt32.le_iff_toNat_le] at h
  change (65 ≤ c.toNat ∧ c.toNat ≤ 90) ∨ (97 ≤ c.toNat ∧ c.toNat ≤ 122) at h
  omega

lemma le_toNat_of_isDigit {c : Char} (h : c.isDigit = true) : 48 ≤ c.toNat := by
  simp only [Char.isDigit, Bool.and_eq_true, decide_eq_true_eq, ge_iff_le,
    UInt32.le_iff_toNat_le] at h
  exact h.1

/-- The blanks of ASCII lie below its digits and its letters. -/
lemma toNat_le_of_isBlank {c : Char} (h : isBlank c = true) (hascii : c.toNat < 0x80) :
    c.toNat ≤ 0x20 := by
  have hmem := toNat_mem_blankPoints h
  simp only [blankPoints, List.mem_cons, List.not_mem_nil, or_false] at hmem
  omega

/-- No blank character can start a name, so it does not matter which of the two classes the scan
asks for first. -/
lemma isLetter_eq_false_of_isBlank {c : Char} (h : isBlank c = true) : isLetter c = false := by
  rw [isLetter]
  split
  · next hascii =>
    have hlow := toNat_le_of_isBlank h hascii
    rw [Bool.eq_false_iff]
    intro halpha
    have hletter := le_toNat_of_isAlpha halpha
    omega
  · exact alphabetic_contains_of_mem_blankPoints c.toNat (toNat_mem_blankPoints h)

/-- No blank character can stand in a name either. -/
lemma isLetterOrNumber_eq_false_of_isBlank {c : Char} (h : isBlank c = true) :
    isLetterOrNumber c = false := by
  rw [isLetterOrNumber]
  split
  · next hascii =>
    have hlow := toNat_le_of_isBlank h hascii
    rw [Bool.eq_false_iff]
    intro halphanum
    rw [Char.isAlphanum, Bool.or_eq_true] at halphanum
    rcases halphanum with halpha | hdigit
    · have hletter := le_toNat_of_isAlpha halpha
      omega
    · have hnumber := le_toNat_of_isDigit hdigit
      omega
  · have hmem := toNat_mem_blankPoints h
    have hletter : alphabetic.containsChar c = false :=
      alphabetic_contains_of_mem_blankPoints c.toNat hmem
    have hnumber : numeric.containsChar c = false :=
      numeric_contains_of_mem_blankPoints c.toNat hmem
    rw [hletter, hnumber]
    rfl

end Text

namespace ScanState

/-- Whether a character can follow the first letter of a name. -/
def isNameChar (c : Char) : Bool :=
  Text.isLetterOrNumber c || c = '-' || c = '_'

/-- Whether a character ends a value without quotes. -/
def endsValue (c : Char) : Bool :=
  Text.isBlank c || c = '(' || c = ')' || c = '&' || c = '|'

lemma isNameChar_equals : isNameChar '=' = false := by decide

lemma endsValue_quote : endsValue '\'' = false := by decide

/-- What may follow a value without quotes: nothing, or a character that ends it. -/
def Ends (rest : List Char) : Prop :=
  ∀ c ∈ rest.head?, endsValue c = true

lemma ends_nil : Ends [] := by simp [Ends]

lemma ends_cons {c : Char} (h : endsValue c = true) (rest : List Char) : Ends (c :: rest) := by
  simpa [Ends] using h

/-- The spellings without quotes, each with the value that it stands for.  The first character of
a spelling is subject to one more condition, which belongs to the operand. -/
inductive Bare : (spelling value : List Char) → Prop
  /-- The empty value. -/
  | nil : Bare [] []
  /-- Any character after a backslash stands for itself. -/
  | escaped (c : Char) {spelling value : List Char} (h : Bare spelling value) :
      Bare ('\\' :: c :: spelling) (c :: value)
  /-- A character that neither ends the value nor escapes the next one. -/
  | plain {c : Char} {spelling value : List Char} (hends : endsValue c = false) (hc : c ≠ '\\')
      (h : Bare spelling value) : Bare (c :: spelling) (c :: value)

/-! ## Outcomes with tokens before them -/

/-- The outcome of a run with more tokens before those that it completes. -/
def after (tokens : List Token) (outcome : Except LexicalError (List Token)) :
    Except LexicalError (List Token) :=
  outcome.map (tokens ++ ·)

@[simp] lemma after_ok (tokens more : List Token) :
    after tokens (.ok more) = .ok (tokens ++ more) := rfl

@[simp] lemma after_error (tokens : List Token) (e : LexicalError) :
    after tokens (.error e) = .error e := rfl

@[simp] lemma after_nil (outcome : Except LexicalError (List Token)) :
    after [] outcome = outcome := by
  cases outcome <;> rfl

@[simp] lemma after_after (first second : List Token)
    (outcome : Except LexicalError (List Token)) :
    after first (after second outcome) = after (first ++ second) outcome := by
  cases outcome <;> simp

lemma push_append_ofList (text : String) (c : Char) (cs : List Char) :
    text.push c ++ String.ofList cs = text ++ String.ofList (c :: cs) := by
  apply String.toList_injective
  simp

lemma run_of_step {s next : ScanState} {c : Char} {tokens : List Token}
    (h : s.step c = .ok (tokens, next)) (rest : List Char) :
    s.run (c :: rest) = after tokens (next.run rest) := by
  rw [run_cons, h]
  rfl

lemma run_cons_eq_ok_iff {s : ScanState} {c : Char} {rest : List Char} {tokens : List Token} :
    s.run (c :: rest) = .ok tokens ↔ ∃ out next more, s.step c = .ok (out, next) ∧
      next.run rest = .ok more ∧ out ++ more = tokens := by
  cases hstep : s.step c with
  | error e => simp [run_cons, hstep]
  | ok move =>
    obtain ⟨out, next⟩ := move
    rw [run_of_step hstep, after, map_eq_ok_iff]
    constructor
    · rintro ⟨more, hmore, rfl⟩
      exact ⟨out, next, more, rfl, hmore, rfl⟩
    · rintro ⟨_, _, more, hmove, hmore, rfl⟩
      cases hmove
      exact ⟨more, hmore, rfl⟩

/-! ## Between elements -/

lemma run_start_blank {c : Char} (h : Text.isBlank c = true) (rest : List Char) :
    start.run (c :: rest) = start.run rest := by
  have hstep : start.step c = .ok ([], start) := by simp [step, stepStart, h]
  rw [run_of_step hstep, after_nil]

lemma run_start_operator (op : Operator) (rest : List Char) :
    start.run (op.text.toList ++ rest) = after [.operator op] (start.run rest) := by
  cases op with
  | and =>
    have hfirst : start.step '&' = .ok ([], pending .and) := by decide
    have hsecond : (pending .and).step '&' = .ok ([.operator .and], start) := by decide
    rw [show Operator.and.text.toList ++ rest = '&' :: '&' :: rest from rfl,
      run_of_step hfirst, run_of_step hsecond, after_nil]
  | or =>
    have hfirst : start.step '|' = .ok ([], pending .or) := by decide
    have hsecond : (pending .or).step '|' = .ok ([.operator .or], start) := by decide
    rw [show Operator.or.text.toList ++ rest = '|' :: '|' :: rest from rfl,
      run_of_step hfirst, run_of_step hsecond, after_nil]
  | not => exact run_of_step (by decide) rest
  | openBracket => exact run_of_step (by decide) rest
  | closeBracket => exact run_of_step (by decide) rest

lemma run_start_letter {c : Char} (h : Text.isLetter c = true) (rest : List Char) :
    start.run (c :: rest) = (name (String.singleton c)).run rest := by
  have hblank : Text.isBlank c = false := by
    rw [Bool.eq_false_iff]
    intro hblank
    rw [Text.isLetter_eq_false_of_isBlank hblank] at h
    contradiction
  have hne : ∀ d, Text.isLetter d = false → c ≠ d := by
    rintro d hd rfl
    simp [h] at hd
  have hstep : start.step c = .ok ([], name (String.singleton c)) := by
    simp [step, stepStart, hblank, h, hne '(' (by decide), hne ')' (by decide),
      hne '!' (by decide), hne '&' (by decide), hne '|' (by decide)]
  rw [run_of_step hstep, after_nil]

/-! ## Names -/

lemma run_name_append (text : String) {cs : List Char} (h : ∀ c ∈ cs, isNameChar c = true)
    (rest : List Char) :
    (name text).run (cs ++ rest) = (name (text ++ String.ofList cs)).run rest := by
  induction cs generalizing text with
  | nil => simp
  | cons c cs ih =>
    have hc : isNameChar c = true := h c (by simp)
    have hne : c ≠ '=' := by
      rintro rfl
      simp [isNameChar_equals] at hc
    have hstep : (name text).step c = .ok ([], name (text.push c)) := by
      simp only [step, stepName, if_neg hne]
      rw [if_pos (by simpa [isNameChar] using hc)]
    rw [List.cons_append, run_of_step hstep, after_nil, ih (text.push c) (by simp_all),
      push_append_ofList]

lemma run_name_equals (text : String) (rest : List Char) :
    (name text).run ('=' :: rest) = after [.name text] (valueStart.run rest) :=
  run_of_step (by simp [step, stepName]) rest

/-! ## Quoted values -/

lemma run_quoted_close (text : String) {cs : List Char} (h : ∀ c ∈ cs, c ≠ '\'')
    (rest : List Char) :
    (quoted text).run (cs ++ '\'' :: rest) =
      after [.value (text ++ String.ofList cs)] (start.run rest) := by
  induction cs generalizing text with
  | nil => simpa using run_of_step (s := quoted text) (c := '\'') (by simp [step, stepQuoted]) rest
  | cons c cs ih =>
    have hstep : (quoted text).step c = .ok ([], quoted (text.push c)) := by
      simp [step, stepQuoted, h c (by simp)]
    rw [List.cons_append, run_of_step hstep, after_nil, ih (text.push c) (by simp_all),
      push_append_ofList]

lemma run_valueStart_quote (rest : List Char) :
    valueStart.run ('\'' :: rest) = (quoted "").run rest := by
  have hstep : valueStart.step '\'' = .ok ([], quoted "") := by decide
  rw [run_of_step hstep, after_nil]

/-! ## Values without quotes -/

/-- A value without quotes that has not begun yet is one of which nothing has been read, unless a
quote is about to come. -/
lemma run_valueStart_of_ne_quote {cs : List Char} (h : cs.head? ≠ some '\'') :
    valueStart.run cs = (bare "").run cs := by
  cases cs with
  | nil => rfl
  | cons c rest =>
    have hc : c ≠ '\'' := by
      rintro rfl
      exact h rfl
    rw [run_cons, run_cons]
    simp [step, hc]

/-- A character that ends a value acts on the scan as it does between elements. -/
lemma step_bare_of_endsValue (text : String) {c : Char} (h : endsValue c = true) :
    ∃ tokens next, start.step c = .ok (tokens, next) ∧
      (bare text).step c = .ok (.value text :: tokens, next) := by
  by_cases hblank : Text.isBlank c = true
  · have hesc : c ≠ '\\' := by
      rintro rfl
      exact absurd hblank (by decide)
    exact ⟨[], start, by simp [step, stepStart, hblank], by simp [step, stepBare, hesc, hblank]⟩
  · simp only [endsValue, hblank, Bool.false_or, Bool.or_eq_true, decide_eq_true_eq] at h
    rcases h with ((rfl | rfl) | rfl) | rfl
    · exact ⟨[.operator .openBracket], start, rfl, rfl⟩
    · exact ⟨[.operator .closeBracket], start, rfl, rfl⟩
    · exact ⟨[], pending .and, rfl, rfl⟩
    · exact ⟨[], pending .or, rfl, rfl⟩

lemma run_bare_ends (text : String) {rest : List Char} (h : Ends rest) :
    (bare text).run rest = after [.value text] (start.run rest) := by
  cases rest with
  | nil => rfl
  | cons c rest =>
    have hc : endsValue c = true := h c rfl
    obtain ⟨tokens, next, hstart, hbare⟩ := step_bare_of_endsValue text hc
    rw [run_of_step hstart, run_of_step hbare, after_after]
    rfl

lemma stepBare_of_plain (text : String) {c : Char} (hends : endsValue c = false) (hc : c ≠ '\\') :
    stepBare text c = ([], bare (text.push c)) := by
  simp only [endsValue, Bool.or_eq_false_iff, decide_eq_false_iff_not] at hends
  obtain ⟨⟨⟨⟨hblank, hopen⟩, hclose⟩, hand⟩, hor⟩ := hends
  simp [stepBare, hc, hblank, hopen, hclose, hand, hor]

lemma run_bare_append (text : String) {spelling value : List Char} (h : Bare spelling value)
    (rest : List Char) :
    (bare text).run (spelling ++ rest) = (bare (text ++ String.ofList value)).run rest := by
  induction h generalizing text with
  | nil => simp
  | @escaped c spelling value _ ih =>
    have hslash : (bare text).step '\\' = .ok ([], escaped text) := rfl
    have hchar : (escaped text).step c = .ok ([], bare (text.push c)) := rfl
    rw [List.cons_append, List.cons_append, run_of_step hslash, run_of_step hchar, after_nil,
      after_nil, ih (text.push c), push_append_ofList]
  | @plain c spelling value hends hc _ ih =>
    have hstep : (bare text).step c = .ok ([], bare (text.push c)) := by
      rw [step, stepBare_of_plain text hends hc]
    rw [List.cons_append, run_of_step hstep, after_nil, ih (text.push c), push_append_ofList]

end ScanState

end FileSieve
