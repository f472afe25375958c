import FileSieve.Builtin
import FileSieve.Proofs.Registry.Table
import FileSieve.Proofs.Token.Grammar

/-!
# Names of built-in operands

The text of a built-in operand consists of its name and its raw value.  For the text to be read back
as an operand, the name has to be one (`Builtin.isName_name`), the registry of built-in operands has
to know it (`Builtin.find?_name`), and what is made there from the raw value has to become the same
operand by preparation (`Builtin.prepare_maker`), which keeps both (`Builtin.name_raw_of_prepare`).
-/

namespace FileSieve

instance Token.decidableIsName : DecidablePred Token.IsName
  | [] => isFalse (by rintro ⟨⟩)
  | c :: rest =>
    decidable_of_iff ((Text.isLetter c && rest.all ScanState.isNameChar) = true) <| by
      rw [Bool.and_eq_true, List.all_eq_true]
      constructor
      · rintro ⟨hc, hrest⟩
        exact .intro hc hrest
      · rintro ⟨hc, hrest⟩
        exact ⟨hc, hrest⟩

namespace Builtin

/-- How operands of this kind are made from raw values. -/
def maker : Builtin → String → Builtin
  | .pattern _ _ => (.pattern · none)
  | .fileType _ _ => (.fileType · none)
  | .newer _ _ => (.newer · none)
  | .size bound _ _ => (.size bound · none)

/-- Preparation looks at nothing but the kind of the operand and its raw value. -/
lemma prepare_maker (a : Builtin) : prepare (a.maker a.raw) = prepare a := by
  cases a <;> rfl

lemma name_raw_of_prepare {a b : Builtin} (h : prepare a = .ok b) :
    b.name = a.name ∧ b.raw = a.raw := by
  cases a with
  | pattern | fileType | newer =>
    simp only [prepare] at h
    split at h
    · cases h
      exact ⟨rfl, rfl⟩
    · contradiction
  | size bound =>
    simp only [prepare] at h
    split at h
    · cases h
      cases bound <;> exact ⟨rfl, rfl⟩
    · contradiction

lemma mem_makers (a : Builtin) : (a.name, a.maker) ∈ makers := by
  cases a with
  | pattern | fileType | newer => simp [makers, name, maker]
  | size bound => cases bound <;> simp [makers, name, maker]

lemma isName_of_mem_makers : ∀ entry ∈ makers, Token.IsName entry.1.toList := by
  intro entry hentry
  simp only [makers, List.mem_cons, List.not_mem_nil, or_false] at hentry
  rcases hentry with rfl | rfl | rfl | rfl | rfl <;> decide

lemma isName_name (a : Builtin) : Token.IsName a.name.toList :=
  isName_of_mem_makers _ a.mem_makers

lemma find?_name (a : Builtin) : Registry.builtins.find? a.name = some (factory a.maker) := by
  simp only [Registry.builtins, makers, List.foldl_cons, List.foldl_nil, Registry.find?_register]
  cases a with
  | pattern | fileType | newer => rfl
  | size bound => cases bound <;> rfl

end Builtin

end FileSieve
