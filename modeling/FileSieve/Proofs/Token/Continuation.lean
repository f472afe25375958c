import FileSieve.Proofs.Token.Run

/-!
# Texts that go on

The scan looks at each character once, so it depends on a text that has gone by only through the
state that it is left in.  `ScanState.Reaches` describes how the scan gets from one state to another
and which tokens it completes on the way.  A text either takes the scan to a state, or the scan
stops at a character of it (`ScanState.reaches_or_stops`), and in both cases one equation says what
becomes of the text with anything after it (`Reaches.run_append`, `Reaches.run_stop`).

Two results follow about texts and what may be added to them.

* The errors fall into two kinds.  An error at the end of a text says that the text is unfinished,
  and there is always a text that finishes it.  An error at a character is there to stay
  (`Token.scan_trichotomy`).
* A blank puts two texts next to each other without either having an influence on the other, unless
  the first ends in a name that still waits for its `=` (`Token.scan_append_blank`).  Whether it
  does can be seen from its tokens: the scan is between the `=` and the end of a value exactly if
  the last token so far is a name (`Reaches.isInValue_eq`).
-/

namespace FileSieve

open ScanState

/-! ## Two kinds of errors -/

/-- Whether the error is found where a text ends, and not at one of its characters. -/
def LexicalError.isAtEnd : LexicalError → Bool
  | .incompleteOperator _ => true
  | .missingCloseQuote _ => true
  | .missingEscapedCharacter => true
  | .unexpectedCharacter _ => false
  | .invalidOperator _ => false
  | .expectedEquals _ => false

namespace ScanState

variable {s next : ScanState} {c : Char} {front rest : List Char} {tokens : List Token}
  {e : LexicalError}

lemma isAtEnd_of_finish (h : s.finish = .error e) : e.isAtEnd = true := by
  cases s with
  | pending | quoted | escaped =>
    cases h
    rfl
  | start | name | valueStart | bare => cases h

lemma isAtEnd_of_step (h : s.step c = .error e) : e.isAtEnd = false := by
  cases s with
  | start =>
    simp only [step, stepStart] at h
    split_ifs at h
    cases h
    rfl
  | pending connective =>
    simp only [step, stepPending] at h
    split_ifs at h
    cases h
    rfl
  | name text =>
    simp only [step, stepName] at h
    split_ifs at h
    cases h
    rfl
  | valueStart =>
    simp only [step] at h
    split_ifs at h
  | bare | quoted | escaped => cases h

/-- Where a text ends too early, one more character is enough. -/
lemma exists_run_singleton (h : s.finish = .error e) : ∃ c tokens, s.run [c] = .ok tokens := by
  cases s with
  | pending connective =>
    have hstep : (pending connective).step connective.mark =
        .ok ([.operator connective.operator], start) := by simp [step, stepPending]
    exact ⟨connective.mark, _, run_of_step hstep []⟩
  | quoted text =>
    have hstep : (quoted text).step '\'' = .ok ([.value text], start) := by
      simp [step, stepQuoted]
    exact ⟨'\'', _, run_of_step hstep []⟩
  | escaped text =>
    -- any character would do
    have hstep : (escaped text).step '\\' = .ok ([], bare (text.push '\\')) := rfl
    exact ⟨'\\', _, run_of_step hstep []⟩
  | start | name | valueStart | bare => cases h

/-! ## From state to state -/

/-- The scan gets from one state to another with a text, and completes tokens on the way. -/
inductive Reaches : ScanState → List Char → List Token → ScanState → Prop
  | nil (s : ScanState) : Reaches s [] [] s
  | cons {s between last : ScanState} {c : Char} {rest : List Char} {out more : List Token}
      (hstep : s.step c = .ok (out, between)) (h : Reaches between rest more last) :
      Reaches s (c :: rest) (out ++ more) last

lemma Reaches.run_append (h : Reaches s front tokens next) (rest : List Char) :
    s.run (front ++ rest) = after tokens (next.run rest) := by
  induction h with
  | nil s => simp
  | cons hstep _ ih => rw [List.cons_append, run_of_step hstep, ih, after_after]

lemma Reaches.run_eq (h : Reaches s front tokens next) :
    s.run front = after tokens next.finish := by
  simpa using h.run_append []

/-- A text is lost at the character where the scan stops, whatever follows. -/
lemma Reaches.run_stop (h : Reaches s front tokens next) (hstep : next.step c = .error e)
    (rest : List Char) : s.run (front ++ c :: rest) = .error e := by
  rw [h.run_append, run_cons, hstep]
  rfl

/-- The scan gets through a text or stops at one of its characters. -/
lemma reaches_or_stops (s : ScanState) (cs : List Char) :
    (∃ tokens next, Reaches s cs tokens next) ∨
      ∃ front c rest tokens next e, cs = front ++ c :: rest ∧ Reaches s front tokens next ∧
        next.step c = .error e := by
  induction cs generalizing s with
  | nil => exact .inl ⟨[], s, .nil s⟩
  | cons c cs ih =>
    cases hstep : s.step c with
    | error e => exact .inr ⟨[], c, cs, [], s, e, rfl, .nil s, hstep⟩
    | ok move =>
      obtain ⟨out, between⟩ := move
      rcases ih between with ⟨tokens, next, h⟩ | ⟨front, d, rest, tokens, next, e, rfl, h, hstop⟩
      · exact .inl ⟨out ++ tokens, next, .cons hstep h⟩
      · exact .inr ⟨c :: front, d, rest, out ++ tokens, next, e, rfl, .cons hstep h, hstop⟩

/-- The scan gets through every front part of a text that it gets through. -/
lemma Reaches.exists_of_append (h : Reaches s (front ++ rest) tokens next) :
    ∃ out between, Reaches s front out between := by
  induction front generalizing s tokens with
  | nil => exact ⟨[], s, .nil s⟩
  | cons c front ih =>
    cases h with
    | cons hstep h =>
      obtain ⟨out, between, hfront⟩ := ih h
      exact ⟨_, between, .cons hstep hfront⟩

lemma Reaches.isAtEnd_of_run (h : Reaches s front tokens next) (hrun : s.run front = .error e) :
    e.isAtEnd = true := by
  rw [h.run_eq, after, map_eq_error_iff] at hrun
  exact isAtEnd_of_finish hrun

/-- A text with tokens takes the scan to a state in which a text may end. -/
lemma exists_reaches_of_run (h : s.run front = .ok tokens) :
    ∃ out next last, Reaches s front out next ∧ next.finish = .ok last ∧ out ++ last = tokens := by
  rcases reaches_or_stops s front with
    ⟨out, next, hreaches⟩ | ⟨_, _, _, _, _, _, rfl, hreaches, hstop⟩
  · rw [hreaches.run_eq, after, map_eq_ok_iff] at h
    obtain ⟨last, hfinish, hlast⟩ := h
    exact ⟨out, next, last, hreaches, hfinish, hlast⟩
  · rw [hreaches.run_stop hstop] at h
    contradiction

end ScanState

/-! ## Unfinished and hopeless texts -/

namespace Token

/-- The text has tokens. -/
def IsComplete (text : String) : Prop :=
  ∃ tokens, scan text = .ok tokens

/-- The text has no tokens because it ends too early, and gets them if it goes on. -/
def IsUnfinished (text : String) : Prop :=
  ∃ e, scan text = .error e ∧ e.isAtEnd = true ∧
    ∃ more, more ≠ "" ∧ IsComplete (text ++ more)

/-- The shortest front part of a text that fails at one of its characters, with its error. -/
structure FirstFault (text front : String) (e : LexicalError) : Prop where
  starts : front.toList <+: text.toList
  scan_eq : scan front = .error e
  isAtEnd_eq : e.isAtEnd = false
  least : ∀ shorter : String, shorter.toList <+: text.toList → shorter.length < front.length →
    ∀ e', scan shorter = .error e' → e'.isAtEnd = true

/-- The text fails at one of its characters and fails in the same way however it goes on, and so did
already the shortest front part of it that fails at a character. -/
def IsHopeless (text : String) : Prop :=
  ∃ e, scan text = .error e ∧ e.isAtEnd = false ∧ (∀ more, scan (text ++ more) = .error e) ∧
    ∃ front, FirstFault text front e

variable {text : String} {front rest : List Char} {c : Char} {tokens : List Token}
  {next : ScanState} {e : LexicalError}

lemma isUnfinished_of_finish (hreaches : Reaches start text.toList tokens next)
    (hfinish : next.finish = .error e) : IsUnfinished text := by
  obtain ⟨c, last, hlast⟩ := exists_run_singleton hfinish
  have herror : scan text = .error e := by
    rw [scan, hreaches.run_eq, hfinish, after_error]
  have hcomplete : scan (text ++ String.singleton c) = .ok (tokens ++ last) := by
    rw [scan, String.toList_append, hreaches.run_append, String.toList_singleton, hlast, after_ok]
  exact ⟨e, herror, isAtEnd_of_finish hfinish, String.singleton c, by simp, _, hcomplete⟩

/-- The front part of a text up to the character where the scan stops is its first fault: the scan
gets through anything shorter. -/
lemma firstFault_of_stop (htext : text.toList = front ++ c :: rest)
    (hreaches : Reaches start front tokens next) (hstop : next.step c = .error e) :
    FirstFault text (String.ofList (front ++ [c])) e where
  starts := by simp [htext]
  scan_eq := by
    rw [scan, String.toList_ofList]
    exact hreaches.run_stop hstop []
  isAtEnd_eq := isAtEnd_of_step hstop
  least := by
    intro shorter hstarts hlength e' herror
    -- what is shorter ends before the character where the scan stops
    have hfront : front <+: text.toList := by simp [htext]
    have hle : shorter.toList.length ≤ front.length := by
      simp only [String.length_ofList, List.length_append, List.length_singleton] at hlength
      rw [String.length_toList]
      omega
    obtain ⟨between, rfl⟩ := List.prefix_of_prefix_length_le hstarts hfront hle
    obtain ⟨out, state, hshorter⟩ := hreaches.exists_of_append
    exact hshorter.isAtEnd_of_run herror

lemma isHopeless_of_stop (htext : text.toList = front ++ c :: rest)
    (hreaches : Reaches start front tokens next) (hstop : next.step c = .error e) :
    IsHopeless text := by
  have hmore : ∀ more, scan (text ++ more) = .error e := by
    intro more
    rw [scan, String.toList_append, htext, List.append_assoc, List.cons_append]
    exact hreaches.run_stop hstop _
  have herror : scan text = .error e := by simpa using hmore ""
  exact ⟨e, herror, isAtEnd_of_step hstop, hmore, _, firstFault_of_stop htext hreaches hstop⟩

/-- **Every text is complete, unfinished or hopeless**, and only one of these.  It has tokens; or it
ends too early, and some text after it completes it; or it fails at a character, and then it fails
with the error of that character whatever comes after it. -/
theorem scan_trichotomy (text : String) :
    (IsComplete text ∨ IsUnfinished text ∨ IsHopeless text) ∧
      ¬ (IsComplete text ∧ IsUnfinished text) ∧ ¬ (IsComplete text ∧ IsHopeless text) ∧
      ¬ (IsUnfinished text ∧ IsHopeless text) := by
  refine ⟨?_, ?_, ?_, ?_⟩
  · rcases reaches_or_stops start text.toList with
      ⟨tokens, next, h⟩ | ⟨front, c, rest, tokens, next, e, htext, h, hstop⟩
    · cases hfinish : next.finish with
      | ok last => exact .inl ⟨tokens ++ last, by rw [scan, h.run_eq, hfinish, after_ok]⟩
      | error e => exact .inr (.inl (isUnfinished_of_finish h hfinish))
    · exact .inr (.inr (isHopeless_of_stop htext h hstop))
  · rintro ⟨⟨tokens, hok⟩, e, herror, -⟩
    rw [hok] at herror
    contradiction
  · rintro ⟨⟨tokens, hok⟩, e, herror, -⟩
    rw [hok] at herror
    contradiction
  · rintro ⟨⟨e, herror, hend, -⟩, e', herror', hend', -⟩
    obtain rfl := Except.error.inj (herror.symm.trans herror')
    rw [hend] at hend'
    contradiction

/-- A text that waits for the rest of a connective, and what the wrong rest does to it. -/
example : scan "x=a &" = .error (.incompleteOperator .and) ∧
    scan "x=a &y='" = .error (.invalidOperator .and) := by
  decide

end Token

/-! ## Texts with a blank between them -/

namespace ScanState

/-- Whether the scan is between the `=` of an operand and the end of its value. -/
def isInValue : ScanState → Bool
  | start => false
  | pending _ => false
  | name _ => false
  | valueStart => true
  | bare _ => true
  | quoted _ => true
  | escaped _ => true

end ScanState

namespace Token

/-- Whether the token is a name. -/
def isName : Token → Bool
  | .name _ => true
  | _ => false

/-- Whether the last token is a name. -/
def endInName (tokens : List Token) : Bool := tokens.getLast?.any isName

variable {tokens : List Token}

@[simp] lemma endInName_nil : endInName [] = false := rfl

@[simp] lemma endInName_concat (tokens : List Token) (t : Token) :
    endInName (tokens ++ [t]) = t.isName := by
  simp [endInName]

lemma endInName_iff : endInName tokens = true ↔ ∃ name, tokens.getLast? = some (.name name) := by
  rw [endInName, Option.any_eq_true]
  constructor
  · rintro ⟨t, hlast, hname⟩
    cases t with
    | name text => exact ⟨text, hlast⟩
    | operator | value => cases hname
  · rintro ⟨name, hlast⟩
    exact ⟨.name name, hlast, rfl⟩

end Token

namespace ScanState

open Token

variable {s next : ScanState} {c w : Char} {cs rest : List Char}
  {before out tokens last : List Token}

lemma endInName_of_stepStart (hstep : stepStart c = .ok (out, next))
    (hbefore : endInName before = false) : endInName (before ++ out) = next.isInValue := by
  simp only [stepStart] at hstep
  split_ifs at hstep <;> cases hstep <;> simp [isInValue, isName, hbefore]

/-- What ends a value completes it, and then acts as it does between elements. -/
lemma endInName_of_stepBare {text : String} (hstep : stepBare text c = (out, next))
    (hbefore : endInName before = true) : endInName (before ++ out) = next.isInValue := by
  by_cases hends : endsValue c = true
  · obtain ⟨tokens, following, hstart, hbare⟩ := step_bare_of_endsValue text hends
    obtain ⟨rfl, rfl⟩ : out = .value text :: tokens ∧ next = following := by
      have hsame := hstep.symm.trans (Except.ok.inj hbare)
      simpa using hsame
    have hvalue : endInName (before ++ [.value text]) = false := by simp [isName]
    have hrest := endInName_of_stepStart hstart hvalue
    simpa using hrest
  · have hends : endsValue c = false := by simpa using hends
    by_cases hescape : c = '\\'
    · simp only [stepBare, if_pos hescape, Prod.mk.injEq] at hstep
      obtain ⟨rfl, rfl⟩ := hstep
      simp [isInValue, hbefore]
    · rw [stepBare_of_plain text hends hescape, Prod.mk.injEq] at hstep
      obtain ⟨rfl, rfl⟩ := hstep
      simp [isInValue, hbefore]

/-- One character keeps it true that the last token is a name exactly inside an operand, after its
`=`. -/
lemma endInName_of_step (hstep : s.step c = .ok (out, next))
    (hbefore : endInName before = s.isInValue) : endInName (before ++ out) = next.isInValue := by
  cases s with
  | start => exact endInName_of_stepStart hstep hbefore
  | pending connective =>
    simp only [step, stepPending] at hstep
    split_ifs at hstep
    cases hstep
    simp [isInValue, isName]
  | name text =>
    simp only [step, stepName] at hstep
    split_ifs at hstep
    · cases hstep
      simp [isInValue, isName]
    · cases hstep
      simpa [isInValue] using hbefore
  | valueStart =>
    simp only [step] at hstep
    split_ifs at hstep
    · cases hstep
      simpa [isInValue] using hbefore
    · exact endInName_of_stepBare (Except.ok.inj hstep) hbefore
  | bare text => exact endInName_of_stepBare (Except.ok.inj hstep) hbefore
  | quoted text =>
    simp only [step, stepQuoted] at hstep
    split_ifs at hstep
    · cases hstep
      simp [isInValue, isName]
    · cases hstep
      simpa [isInValue] using hbefore
  | escaped text =>
    cases hstep
    simpa [isInValue] using hbefore

lemma Reaches.endInName_append (h : Reaches s cs out next)
    (hbefore : endInName before = s.isInValue) : endInName (before ++ out) = next.isInValue := by
  induction h generalizing before with
  | nil s => simpa using hbefore
  | cons hstep _ ih =>
    rw [← List.append_assoc]
    exact ih (endInName_of_step hstep hbefore)

/-- The last token of a text is a name if the scan is inside an operand, after its `=`. -/
lemma Reaches.isInValue_eq (h : Reaches start cs out next) : endInName out = next.isInValue := by
  have hnone : endInName [] = start.isInValue := rfl
  simpa using h.endInName_append hnone

/-! ### A blank after a text -/

lemma run_name_blank (text : String) (hw : Text.isBlank w = true) (rest : List Char) :
    (name text).run (w :: rest) = .error (.expectedEquals w) := by
  have hne : ∀ d, Text.isBlank d = false → w ≠ d := by
    rintro d hd rfl
    rw [hw] at hd
    contradiction
  have hletter := Text.isLetterOrNumber_eq_false_of_isBlank hw
  have hstep : (name text).step w = .error (.expectedEquals w) := by
    simp [step, stepName, hletter, hne '=' (by decide), hne '-' (by decide), hne '_' (by decide)]
  rw [run_cons, hstep]

/-- Where a text may end with other than a name, a blank completes the token under way. -/
lemma run_blank_of_finish (hfinish : s.finish = .ok last) (hname : ∀ text, s ≠ name text)
    (hw : Text.isBlank w = true) (rest : List Char) :
    s.run (w :: rest) = after last (start.run rest) := by
  have hends : Ends (w :: rest) := ends_cons (by simp [endsValue, hw]) rest
  have hbare : ∀ text, (bare text).run (w :: rest) = after [.value text] (start.run rest) := by
    intro text
    rw [run_bare_ends text hends, run_start_blank hw]
  cases s with
  | start =>
    cases hfinish
    rw [run_start_blank hw, after_nil]
  | valueStart =>
    cases hfinish
    -- the value is empty, and a blank does not begin a quoted one
    have hquote : (w :: rest).head? ≠ some '\'' := by
      rintro hhead
      obtain rfl : w = '\'' := by simpa using hhead
      exact absurd hw (by decide)
    rw [run_valueStart_of_ne_quote hquote, hbare]
  | bare text =>
    cases hfinish
    exact hbare text
  | name text => exact absurd rfl (hname text)
  | pending | quoted | escaped => cases hfinish

/-- The tokens of a text end in a name exactly if the text ends inside a name. -/
lemma Reaches.endInName_iff_of_finish (h : Reaches start cs out next)
    (hfinish : next.finish = .ok last) :
    endInName (out ++ last) = true ↔ ∃ text, next = name text := by
  have hout := h.isInValue_eq
  cases next with
  | start =>
    cases hfinish
    simpa [isInValue] using hout
  | name text =>
    cases hfinish
    simp [isName]
  | valueStart | bare =>
    cases hfinish
    simp [isName]
  | pending | quoted | escaped => cases hfinish

end ScanState

namespace Token

/-- **A blank keeps texts apart.**  If the first text ends in anything but a name, the two are
scanned as if each stood alone: the tokens come one after the other, and an error of the second is
the error of the whole.  A name in front of the blank is an error, whatever the second text is. -/
theorem scan_append_blank {text : String} {tokens : List Token} {w : Char}
    (htext : scan text = .ok tokens) (hw : Text.isBlank w = true) (rest : String) :
    ((∀ name, tokens.getLast? ≠ some (.name name)) →
      scan (text ++ String.singleton w ++ rest) = (scan rest).map (tokens ++ ·)) ∧
    ((∃ name, tokens.getLast? = some (.name name)) →
      scan (text ++ String.singleton w ++ rest) = .error (.expectedEquals w)) := by
  obtain ⟨out, next, last, hreaches, hfinish, rfl⟩ := exists_reaches_of_run htext
  have hscan : scan (text ++ String.singleton w ++ rest) =
      after out (next.run (w :: rest.toList)) := by
    rw [scan, String.toList_append, String.toList_append, List.append_assoc, hreaches.run_append,
      String.toList_singleton, List.singleton_append]
  have hends := hreaches.endInName_iff_of_finish hfinish
  rw [endInName_iff] at hends
  constructor
  · intro hlast
    have hname : ∀ text, next ≠ .name text := by
      intro text hnext
      obtain ⟨name, hlastName⟩ := hends.mpr ⟨text, hnext⟩
      exact hlast name hlastName
    rw [hscan, run_blank_of_finish hfinish hname hw, after_after]
    rfl
  · intro hlast
    obtain ⟨text, rfl⟩ := hends.mp hlast
    rw [hscan, run_name_blank text hw, after_error]

/-- A value that is still empty, a name without a value, and a blank after each. -/
theorem scan_append_blank_emptyValue :
    scan "x=" = .ok [.name "x", .value ""] ∧ Text.isBlank '\u3000' = true ∧
      (∀ name, [Token.name "x", .value ""].getLast? ≠ some (.name name)) ∧
      scan ("x=" ++ String.singleton '\u3000' ++ "||y") =
        .ok [.name "x", .value "", .operator .or, .name "y"] ∧
      scan ("x=" ++ String.singleton '\u3000' ++ "9") = .error (.unexpectedCharacter '9') ∧
      scan "x" = .ok [.name "x"] ∧
      scan ("x" ++ String.singleton '\u3000' ++ "=a") = .error (.expectedEquals '\u3000') := by
  have hvalue : scan "x=" = .ok [.name "x", .value ""] := by decide
  have hblank : Text.isBlank '\u3000' = true := by decide
  have hlast : ∀ name, [Token.name "x", .value ""].getLast? ≠ some (.name name) := by simp
  have hor : scan "||y" = .ok [.operator .or, .name "y"] := by decide
  have hdigit : scan "9" = .error (.unexpectedCharacter '9') := by decide
  have hname : scan "x" = .ok [.name "x"] := by decide
  have hjoined := (scan_append_blank hvalue hblank "||y").1 hlast
  have hfailed := (scan_append_blank hvalue hblank "9").1 hlast
  have hcut := (scan_append_blank hname hblank "=a").2 ⟨"x", rfl⟩
  rw [hor] at hjoined
  rw [hdigit] at hfailed
  exact ⟨hvalue, hblank, hlast, hjoined, hfailed, hname, hcut⟩

end Token

end FileSieve
