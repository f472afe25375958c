import FileSieve.Operand.Written
import FileSieve.Proofs.Token.Grammar

/-!
# Pieces of text

`Token.ReadsAs` relates a piece of text to the tokens that the scan makes of it, wherever a piece
may begin and in front of anything that ends a value.  The last condition is needed only after a
value without quotes, but a piece does not show at its end how it was written, so it is asked of
all.

Pieces are put together as canonical texts are: an operator in front of a piece, a blank between two
pieces, brackets around one.  The smallest pieces are written operands, for which the spelling that
`Operand.writtenValue` chooses has to be one of the grammar (`Operand.spells_writtenValue`).  What
that comes to for an operand by itself and for one inside a text is `scan_written`.
-/

namespace FileSieve

open ScanState Token

/-! ## Written values -/

namespace Operand

variable {c : Char} {value : List Char}

lemma endsValue_of_not_isSpecial (h : isSpecial c = false) :
    endsValue c = false ∧ c ≠ '\\' ∧ c ≠ '\'' := by
  simp only [isSpecial, Bool.or_eq_false_iff, decide_eq_false_iff_not] at h
  obtain ⟨⟨hends, hescape⟩, hquote⟩ := h
  refine ⟨?_, hescape, hquote⟩
  simpa [endsValue] using hends

/-- A value without special characters stands for itself. -/
lemma bare_self (h : ∀ c ∈ value, isSpecial c = false) : Bare value value := by
  induction value with
  | nil => exact .nil
  | cons c value ih =>
    obtain ⟨hc, hvalue⟩ := List.forall_mem_cons.mp h
    obtain ⟨hends, hescape, -⟩ := endsValue_of_not_isSpecial hc
    exact .plain hends hescape (ih hvalue)

lemma bare_escape (value : List Char) : Bare (escape value) value := by
  induction value with
  | nil => exact .nil
  | cons c value ih =>
    rw [escape]
    split
    · exact .escaped c ih
    · next hc =>
      obtain ⟨hends, hescape, -⟩ := endsValue_of_not_isSpecial (Bool.eq_false_iff.mpr hc)
      exact .plain hends hescape ih

/-- An escaped value does not look like a quoted one. -/
lemma head?_escape (value : List Char) : (escape value).head? ≠ some '\'' := by
  cases value with
  | nil => simp [escape]
  | cons c value =>
    rw [escape]
    split
    · simp
    · next hc =>
      obtain ⟨-, -, hquote⟩ := endsValue_of_not_isSpecial (Bool.eq_false_iff.mpr hc)
      simpa using hquote

/-- The spelling of a value is one of the grammar, in front of anything that ends a value. -/
lemma spells_writtenValue (value : String) {rest : List Char} (hrest : Ends rest) :
    Spells (writtenValue value.toList) value rest := by
  rw [writtenValue]
  split
  · next hplain =>
    have hplain : ∀ c ∈ value.toList, isSpecial c = false := by simpa using hplain
    have hquote : value.toList.head? ≠ some '\'' := by
      intro hhead
      obtain ⟨-, -, hne⟩ := endsValue_of_not_isSpecial (hplain '\'' (List.mem_of_mem_head? hhead))
      contradiction
    exact .bare hquote (bare_self hplain) hrest
  split
  · next hquote =>
    have hquote : ∀ c ∈ value.toList, c ≠ '\'' := by
      rintro c hc rfl
      simp [hc] at hquote
    exact .quoted hquote rest
  · exact .bare (head?_escape _) (bare_escape _) hrest

end Operand

/-! ## Pieces -/

namespace Token

/-- The scan reads the text as the tokens, in front of anything that ends a value. -/
def ReadsAs (text : String) (tokens : List Token) : Prop :=
  ∀ rest, Ends rest → start.run (text.toList ++ rest) = after tokens (start.run rest)

variable {text text' : String} {tokens tokens' : List Token}

lemma readsAs_empty : ReadsAs "" [] := by
  intro rest _
  simp

lemma readsAs_written {name : String} (hname : IsName name.toList) (value : String) :
    ReadsAs (Operand.written name value) [.name name, .value value] := by
  intro rest hrest
  have hshape : (Operand.written name value).toList ++ rest =
      name.toList ++ '=' :: (Operand.writtenValue value.toList ++ rest) := by
    simp [Operand.written]
  rw [hshape, run_start_operand hname (Operand.spells_writtenValue value hrest)]

lemma ReadsAs.operator (op : Operator) (h : ReadsAs text tokens) :
    ReadsAs (op.text ++ text) (.operator op :: tokens) := by
  intro rest hrest
  rw [String.toList_append, List.append_assoc, run_start_operator, h rest hrest, after_after]
  rfl

lemma ReadsAs.brackets (h : ReadsAs text tokens) :
    ReadsAs ("(" ++ text ++ ")")
      (.operator .openBracket :: (tokens ++ [.operator .closeBracket])) := by
  intro rest hrest
  have hinner := h (Operator.closeBracket.text.toList ++ rest) (ends_cons (by decide) rest)
  have hshape : ("(" ++ text ++ ")").toList ++ rest =
      Operator.openBracket.text.toList ++
        (text.toList ++ (Operator.closeBracket.text.toList ++ rest)) := by
    simp [Operator.text]
  rw [hshape, run_start_operator, hinner, run_start_operator, after_after, after_after]
  rfl

lemma ReadsAs.blank (h : ReadsAs text tokens) (h' : ReadsAs text' tokens') :
    ReadsAs (text ++ " " ++ text') (tokens ++ tokens') := by
  intro rest hrest
  have hshape : (text ++ " " ++ text').toList ++ rest =
      text.toList ++ ' ' :: (text'.toList ++ rest) := by
    simp
  have hblank : Text.isBlank ' ' = true := by decide
  rw [hshape, h _ (ends_cons (by decide) _), run_start_blank hblank, h' rest hrest, after_after]

lemma ReadsAs.scan_eq (h : ReadsAs text tokens) : scan text = .ok tokens := by
  have hrun := h [] ends_nil
  rw [List.append_nil] at hrun
  rw [scan, hrun, run_nil]
  simp [finish]

/-- What follows a piece is read as if it stood alone. -/
lemma ReadsAs.scan_append (h : ReadsAs text tokens) {rest : String} (hrest : Ends rest.toList) :
    scan (text ++ rest) = after tokens (scan rest) := by
  rw [scan, String.toList_append, h rest.toList hrest, scan]

/-! ## Written operands -/

/-- **Written operands are read back.**  The scan makes of the written form of an operand its name
and its value, whatever the value is, and goes on after it with a closing bracket or a blank as if
the operand were not there.  So the written form tells which name and which value it is made of. -/
theorem scan_written {name : String} (hname : IsName name.toList) (value : String) :
    scan (Operand.written name value) = .ok [.name name, .value value] ∧
      (∀ (rest : String) (c : Char) (tokens : List Token), rest.toList.head? = some c →
        c = ')' ∨ Text.isBlank c = true → scan rest = .ok tokens →
          scan (Operand.written name value ++ rest) =
            .ok (.name name :: .value value :: tokens)) ∧
      ∀ name' value' : String, IsName name'.toList →
        Operand.written name' value' = Operand.written name value →
          name' = name ∧ value' = value := by
  have hreads := readsAs_written hname value
  refine ⟨hreads.scan_eq, ?_, ?_⟩
  · intro rest c tokens hhead hc hscan
    have hends : Ends rest.toList := by
      intro d hd
      obtain rfl : c = d := by simpa [hhead] using hd
      rcases hc with rfl | hblank
      · decide
      · simp [endsValue, hblank]
    rw [hreads.scan_append hends, hscan]
    rfl
  · intro name' value' hname' heq
    have hscan : scan (Operand.written name value) = .ok [.name name', .value value'] := by
      rw [← heq]
      exact (readsAs_written hname' value').scan_eq
    have htokens := Except.ok.inj (hreads.scan_eq.symm.trans hscan)
    simpa [eq_comm] using htokens

/-- A value that has to be escaped, in front of a bracket, and one without its quote. -/
theorem scan_written_escaped :
    IsName "re".toList ∧ Operand.written "re" "it's (1)" = "re=it\\'s\\ \\(1\\)" ∧
      scan "re=it\\'s\\ \\(1\\)" = .ok [.name "re", .value "it's (1)"] ∧
      scan ("re=it\\'s\\ \\(1\\)" ++ ") || x") =
        .ok [.name "re", .value "it's (1)", .operator .closeBracket, .operator .or, .name "x"] ∧
      Operand.written "re" "its (1)" ≠ Operand.written "re" "it's (1)" := by
  have hname : IsName "re".toList := .intro (by decide) (List.forall_mem_singleton.mpr (by decide))
  have hwritten : Operand.written "re" "it's (1)" = "re=it\\'s\\ \\(1\\)" := by decide
  obtain ⟨halone, hbefore, hinj⟩ := scan_written hname "it's (1)"
  have hrest : scan ") || x" = .ok [.operator .closeBracket, .operator .or, .name "x"] := by decide
  have hcontext := hbefore ") || x" ')' _ rfl (.inl rfl) hrest
  rw [hwritten] at halone hcontext
  refine ⟨hname, hwritten, halone, hcontext, fun heq => ?_⟩
  obtain ⟨-, hvalue⟩ := hinj "re" "its (1)" hname heq
  contradiction

end Token

end FileSieve
