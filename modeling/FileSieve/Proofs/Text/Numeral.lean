import Mathlib.Data.Nat.Digits.Defs
import FileSieve.Proofs.Token.Run
import FileSieve.Text.Decimal

/-!
# Decimal numerals

Digits that are read from the left have the value of decimal notation (`Text.decimal_eq_value`):
the last one counts once, the one before it ten times, and so on.  A `Text.Numeral` is a numeral of
a fixed width, such as the year and the month of a date.

`takeWhile` and `dropWhile` cut a text at the end of its digits, or of its blanks, if nothing behind
them is one (`takeWhile_append_of_forall`, `dropWhile_append_of_forall`).
-/

namespace FileSieve

/-! ## Cutting a text -/

section Cutting

variable {β : Type} {p : β → Bool} {front rest : List β}

lemma takeWhile_append_of_forall (hfront : ∀ x ∈ front, p x = true)
    (hrest : ∀ x ∈ rest.head?, p x = false) : (front ++ rest).takeWhile p = front := by
  rw [List.takeWhile_append_of_pos hfront]
  cases rest with
  | nil => simp
  | cons x rest => simp [hrest x rfl]

lemma dropWhile_append_of_forall (hfront : ∀ x ∈ front, p x = true)
    (hrest : ∀ x ∈ rest.head?, p x = false) : (front ++ rest).dropWhile p = rest := by
  rw [List.dropWhile_append_of_pos hfront]
  cases rest with
  | nil => rfl
  | cons x rest => simp [hrest x rfl]

end Cutting

namespace Text

/-! ## Values -/

/-- The number that digits stand for in decimal notation. -/
def numeralValue (digits : List Char) : ℕ :=
  Nat.ofDigits 10 (digits.reverse.map fun c => c.toNat - '0'.toNat)

lemma decimal_eq_value (digits : List Char) : decimal digits = numeralValue digits := by
  rw [decimal, numeralValue, Nat.ofDigits_eq_foldr, List.foldr_map, List.foldr_reverse]
  simp [add_comm]

lemma toNat_le_of_isDigit {c : Char} (h : c.isDigit = true) : c.toNat ≤ 57 := by
  simp only [Char.isDigit, Bool.and_eq_true, decide_eq_true_eq, UInt32.le_iff_toNat_le] at h
  exact h.2

lemma isBlank_eq_false_of_isDigit {c : Char} (h : c.isDigit = true) : isBlank c = false := by
  rw [Bool.eq_false_iff]
  intro hblank
  have hge := le_toNat_of_isDigit h
  have hle := toNat_le_of_isDigit h
  have hlow := toNat_le_of_isBlank hblank (by omega)
  omega

lemma numeralValue_lt {digits : List Char} (h : ∀ c ∈ digits, c.isDigit = true) :
    numeralValue digits < 10 ^ digits.length := by
  have hlength : (digits.reverse.map fun c => c.toNat - '0'.toNat).length = digits.length := by
    simp
  rw [numeralValue, ← hlength]
  refine Nat.ofDigits_lt_base_pow_length (by decide) fun x hx => ?_
  obtain ⟨c, hc, rfl⟩ := List.mem_map.mp hx
  have hle := toNat_le_of_isDigit (h c (List.mem_reverse.mp hc))
  have hzero : '0'.toNat = 48 := rfl
  omega

/-- Decimal digits of a fixed number. -/
structure Numeral (width : ℕ) where
  /-- The digits, the most significant one first. -/
  digits : List Char
  /-- There are as many as there have to be. -/
  length_eq : digits.length = width
  /-- They are digits. -/
  isDigit_of_mem : ∀ c ∈ digits, c.isDigit = true

namespace Numeral

variable {width : ℕ}

/-- The number that a numeral stands for. -/
def value (n : Numeral width) : ℕ := numeralValue n.digits

/-- A numeral as text. -/
def text (n : Numeral width) : String := String.ofList n.digits

lemma exists_cons (n : Numeral (width + 1)) : ∃ c cs, n.digits = c :: cs :=
  List.exists_cons_of_length_pos (by rw [n.length_eq]; exact Nat.succ_pos width)

lemma value_lt (n : Numeral width) : n.value < 10 ^ width := by
  have hlt := numeralValue_lt n.isDigit_of_mem
  rwa [n.length_eq] at hlt

@[simp] lemma toList_text (n : Numeral width) : n.text.toList = n.digits :=
  String.toList_ofList

end Numeral

end Text

end FileSieve
