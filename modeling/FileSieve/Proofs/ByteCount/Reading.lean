import Mathlib.Data.List.TakeWhile
import FileSieve.ByteCount
import FileSieve.Proofs.Text.CaseVariant
import FileSieve.Proofs.Text.Numeral

/-!
# Reading sizes

A `ByteCount.Spelling` is a size as it may be written: digits, blanks, perhaps a unit, perhaps an
`i` and perhaps a `b`.  What counts as one of these letters is left open (`Takes`), since a pattern
that ignores case takes more for a `k` than the two characters of ASCII.

Blanks at the ends aside, a text is a size of `n` bytes exactly if it is a spelling whose number,
shifted by the exponent of its unit, is `n` and below the limit (`ByteCount.read?_eq_some_iff`).
The limit is asked for twice on the way, before and after the shift, but the first time is implied
by the second.
-/

namespace FileSieve

open Text

namespace ByteCount

/-! ## Letters -/

/-- The unit letters with the powers of two that they stand for. -/
def unitLetters : List (Char × ℕ) := [('k', 10), ('m', 20), ('g', 30), ('t', 40)]

/-- The Kelvin sign, a case variant of `k` outside ASCII. -/
def kelvinSign : Char := Char.ofNat 0x212A

section Letters

variable {c letter : Char} {exponent : ℕ}

lemma toNat_toLower (c : Char) :
    c.toLower.toNat = if 65 ≤ c.toNat ∧ c.toNat ≤ 90 then c.toNat + 32 else c.toNat := by
  have hupper : (c.val ≥ 'A'.val ∧ c.val ≤ 'Z'.val) ↔ 65 ≤ c.toNat ∧ c.toNat ≤ 90 := by
    rw [ge_iff_le, UInt32.le_iff_toNat_le, UInt32.le_iff_toNat_le]
    exact Iff.rfl
  by_cases h : c.val ≥ 'A'.val ∧ c.val ≤ 'Z'.val
  · have hlower : c.toLower.toNat = (c.val.toNat + 32) % 4294967296 :=
      congrArg Char.toNat (dif_pos h)
    have hle : c.val.toNat ≤ 90 := (hupper.mp h).2
    rw [if_pos (hupper.mp h), hlower]
    change (c.val.toNat + 32) % 4294967296 = c.val.toNat + 32
    omega
  · have hlower : c.toLower = c := dif_neg h
    rw [if_neg fun hc => h (hupper.mpr hc), hlower]

lemma toLower_eq_iff (hletter : 97 ≤ letter.toNat ∧ letter.toNat ≤ 122) :
    c.toLower = letter ↔ c.toNat = letter.toNat - 32 ∨ c.toNat = letter.toNat := by
  rw [← Char.toNat_inj, toNat_toLower]
  split <;> omega

lemma eq_kelvinSign_iff : c = kelvinSign ↔ c.toNat = 0x212A := by
  rw [← Char.toNat_inj]
  rfl

/-- But for `k`, the case variants of the letters of sizes are those of ASCII. -/
lemma sameLetter_iff_toLower (h : [letter.toNat - 32, letter.toNat] ∈ sizeOrbits) :
    SameLetter c letter ↔ c.toLower = letter := by
  have hlower : 97 ≤ letter.toNat ∧ letter.toNat ≤ 122 := by
    simp only [sizeOrbits, List.mem_cons, List.cons.injEq, List.not_mem_nil, reduceCtorEq,
      and_true, and_false, or_false, false_or] at h
    omega
  rw [sameLetter_iff_mem h (by simp), toLower_eq_iff hlower]
  simp

lemma sameLetter_k_iff : SameLetter c 'k' ↔ c.toLower = 'k' ∨ c = kelvinSign := by
  have hk : [0x4B, 0x6B, 0x212A] ∈ sizeOrbits := by decide
  rw [sameLetter_iff_mem hk (by decide),
    toLower_eq_iff (by decide), eq_kelvinSign_iff]
  simp [or_assoc]

lemma toNat_mem_of_mem_unitLetters :
    ∀ entry ∈ unitLetters, entry.1.toNat ∈ sizeOrbits.flatten := by
  decide

lemma isUnit_iff : isUnit c = true ↔ ∃ entry ∈ unitLetters, SameLetter c entry.1 := by
  have hletters : (∃ entry ∈ unitLetters, SameLetter c entry.1) ↔ SameLetter c 'k' ∨
      SameLetter c 'm' ∨ SameLetter c 'g' ∨ SameLetter c 't' := by simp [unitLetters]
  have hunit : isUnit c = true ↔ (c.toLower = 'k' ∨ c.toLower = 'm' ∨ c.toLower = 'g' ∨
      c.toLower = 't') ∨ c = kelvinSign := by simp [isUnit, eq_kelvinSign_iff]
  have hm : SameLetter c 'm' ↔ c.toLower = 'm' := sameLetter_iff_toLower (by decide)
  have hg : SameLetter c 'g' ↔ c.toLower = 'g' := sameLetter_iff_toLower (by decide)
  have ht : SameLetter c 't' ↔ c.toLower = 't' := sameLetter_iff_toLower (by decide)
  rw [hletters, hunit, sameLetter_k_iff, hm, hg, ht]
  simp only [or_comm, or_left_comm]

/-- Except for the Kelvin sign, a unit is the power of two that its letter stands for. -/
lemma unitExponent_eq (hentry : (letter, exponent) ∈ unitLetters) (hc : SameLetter c letter)
    (hkelvin : c ≠ kelvinSign) : unitExponent c = exponent := by
  have hlower : c.toLower = letter := by
    simp only [unitLetters, List.mem_cons, Prod.mk.injEq, List.not_mem_nil, or_false] at hentry
    rcases hentry with ⟨rfl, -⟩ | ⟨rfl, -⟩ | ⟨rfl, -⟩ | ⟨rfl, -⟩
    · exact (sameLetter_k_iff.mp hc).resolve_right hkelvin
    all_goals exact (sameLetter_iff_toLower (by decide)).mp hc
  have hexponents : ∀ entry ∈ unitLetters, unitExponent entry.1 = entry.2 := by decide
  have hself : letter.toLower = letter := by
    have hletters : ∀ entry ∈ unitLetters, entry.1.toLower = entry.1 := by decide
    exact hletters _ hentry
  have hletter : unitExponent letter = exponent := hexponents _ hentry
  rw [← hletter, unitExponent, unitExponent, hself, hlower]

lemma unitExponent_kelvinSign : unitExponent kelvinSign = 40 := rfl

end Letters

/-! ## Spellings -/

/-- A size as it may be written, where `Takes c letter` says which characters may stand for a
letter. -/
structure Spelling (Takes : Char → Char → Prop) where
  /-- The digits of the number. -/
  digits : List Char
  /-- The blanks between the number and the letters. -/
  blanks : List Char
  /-- The unit, if there is one. -/
  unit : Option Char
  /-- The `i`, if there is one. -/
  i : Option Char
  /-- The `b`, if there is one. -/
  b : Option Char
  /-- There is a number. -/
  digits_ne_nil : digits ≠ []
  /-- It consists of decimal digits. -/
  isDigit_of_mem : ∀ c ∈ digits, c.isDigit = true
  /-- The blanks are blank. -/
  isBlank_of_mem : ∀ c ∈ blanks, isBlank c = true
  /-- The unit is one of the four. -/
  takes_unit : ∀ c ∈ unit, ∃ entry ∈ unitLetters, Takes c entry.1
  /-- The `i` is an `i`. -/
  takes_i : ∀ c ∈ i, Takes c 'i'
  /-- The `b` is a `b`. -/
  takes_b : ∀ c ∈ b, Takes c 'b'

namespace Spelling

variable {Takes : Char → Char → Prop}

/-- The letters at the end. -/
def letters (w : Spelling Takes) : List Char := w.unit.toList ++ (w.i.toList ++ w.b.toList)

lemma mem_letters {w : Spelling Takes} {c : Char} :
    c ∈ w.letters ↔ c ∈ w.unit ∨ c ∈ w.i ∨ c ∈ w.b := by
  simp only [letters, List.mem_append, Option.mem_toList, Option.mem_def]

/-- The characters of a spelling. -/
def text (w : Spelling Takes) : List Char := w.digits ++ (w.blanks ++ w.letters)

/-- The number in front. -/
def number (w : Spelling Takes) : ℕ := numeralValue w.digits

/-- The power of two that an optional unit stands for; no unit stands for `2 ^ 0`. -/
def StandsFor (Takes : Char → Char → Prop) : (unit : Option Char) → (exponent : ℕ) → Prop
  | none, exponent => exponent = 0
  | some c, exponent => ∃ letter, (letter, exponent) ∈ unitLetters ∧ Takes c letter

/-- Whether the unit of a spelling stands for the given power of two. -/
def HasExponent (w : Spelling Takes) (exponent : ℕ) : Prop := StandsFor Takes w.unit exponent

/-- The power of two that reading takes the unit for. -/
def exponent (w : Spelling Takes) : ℕ := w.unit.elim 0 unitExponent

/-- Every letter of a spelling is one of the letters of sizes. -/
lemma toNat_mem_of_mem_letters (w : Spelling SameLetter) :
    ∀ c ∈ w.letters, c.toNat ∈ sizeOrbits.flatten := by
  intro c hc
  rcases mem_letters.mp hc with hc | hc | hc
  · obtain ⟨entry, hentry, hsame⟩ := w.takes_unit c hc
    exact toNat_mem_of_sameLetter (toNat_mem_of_mem_unitLetters entry hentry) hsame
  · exact toNat_mem_of_sameLetter (by decide) (w.takes_i c hc)
  · exact toNat_mem_of_sameLetter (by decide) (w.takes_b c hc)

end Spelling

/-! ## What is spelled is read -/

section Letters

variable {rest : List Char} {letter : Char} {c : Char}

lemma takeUnit_append {unit : Option Char} (hunit : ∀ c ∈ unit, isUnit c = true)
    (hrest : ∀ c ∈ rest.head?, isUnit c = false) :
    takeUnit (unit.toList ++ rest) = (unit.elim 0 unitExponent, rest) := by
  cases unit with
  | some c => simp [takeUnit, hunit c rfl]
  | none =>
    cases rest with
    | nil => rfl
    | cons c rest => simp [takeUnit, hrest c rfl]

lemma exists_takeUnit (cs : List Char) : ∃ unit : Option Char,
    (∀ c ∈ unit, isUnit c = true) ∧ cs = unit.toList ++ (takeUnit cs).2 := by
  cases cs with
  | nil => exact ⟨none, by simp, rfl⟩
  | cons c rest =>
    cases h : isUnit c with
    | true => exact ⟨some c, by simpa using h, by simp [takeUnit, h]⟩
    | false => exact ⟨none, by simp, by simp [takeUnit, h]⟩

lemma dropLetter_append {found : Option Char} (hfound : ∀ c ∈ found, c.toLower = letter)
    (hrest : ∀ c ∈ rest.head?, c.toLower ≠ letter) :
    dropLetter letter (found.toList ++ rest) = rest := by
  cases found with
  | some c => simp [dropLetter, hfound c rfl]
  | none =>
    cases rest with
    | nil => rfl
    | cons c rest => simp [dropLetter, hrest c rfl]

lemma exists_dropLetter (letter : Char) (cs : List Char) : ∃ found : Option Char,
    (∀ c ∈ found, c.toLower = letter) ∧ cs = found.toList ++ dropLetter letter cs := by
  cases cs with
  | nil => exact ⟨none, by simp, rfl⟩
  | cons c rest =>
    by_cases h : c.toLower = letter
    · exact ⟨some c, by simpa using h, by simp [dropLetter, h]⟩
    · exact ⟨none, by simp, by simp [dropLetter, h]⟩

end Letters

namespace Spelling

variable (w : Spelling SameLetter)

lemma isDigit_eq_false_of_mem_rest : ∀ c ∈ w.blanks ++ w.letters, c.isDigit = false := by
  intro c hc
  rcases List.mem_append.mp hc with hc | hc
  · have hblank := w.isBlank_of_mem c hc
    rw [Bool.eq_false_iff]
    intro hdigit
    simp [isBlank_eq_false_of_isDigit hdigit] at hblank
  · exact isDigit_eq_false_of_mem (w.toNat_mem_of_mem_letters c hc)

lemma toLower_i : ∀ c ∈ w.i, c.toLower = 'i' := fun c hc =>
  (sameLetter_iff_toLower (by decide)).mp (w.takes_i c hc)

lemma toLower_b : ∀ c ∈ w.b, c.toLower = 'b' := fun c hc =>
  (sameLetter_iff_toLower (by decide)).mp (w.takes_b c hc)

lemma takeUnit_letters : takeUnit w.letters = (w.exponent, w.i.toList ++ w.b.toList) := by
  refine takeUnit_append (fun c hc => isUnit_iff.mpr (w.takes_unit c hc)) fun c hc => ?_
  have hletter : c.toLower = 'i' ∨ c.toLower = 'b' := by
    rcases List.mem_append.mp (List.mem_of_mem_head? hc) with hc | hc
    · exact .inl (w.toLower_i c (Option.mem_toList.mp hc))
    · exact .inr (w.toLower_b c (Option.mem_toList.mp hc))
  have hkelvin : c.toNat ≠ 0x212A := by
    intro hpoint
    rw [eq_kelvinSign_iff.mpr hpoint] at hletter
    revert hletter
    decide
  rcases hletter with hletter | hletter <;> simp [isUnit, hletter, hkelvin]

lemma dropLetter_i : dropLetter 'i' (w.i.toList ++ w.b.toList) = w.b.toList := by
  refine dropLetter_append w.toLower_i fun c hc => ?_
  rw [w.toLower_b c (Option.mem_toList.mp (List.mem_of_mem_head? hc))]
  decide

lemma dropLetter_b : dropLetter 'b' w.b.toList = [] := by
  have hrest : ∀ c ∈ ([] : List Char).head?, c.toLower ≠ 'b' := by simp
  simpa using dropLetter_append w.toLower_b hrest

/-- A spelling is read as its number shifted by the exponent, if that is below the limit. -/
lemma readTrimmed?_text : readTrimmed? w.text =
    if w.number * 2 ^ w.exponent < limit then some (w.number * 2 ^ w.exponent) else none := by
  have hrest : ∀ c ∈ (w.blanks ++ w.letters).head?, c.isDigit = false := fun c hc =>
    w.isDigit_eq_false_of_mem_rest c (List.mem_of_mem_head? hc)
  have hletters : ∀ c ∈ w.letters.head?, isBlank c = false := fun c hc =>
    isBlank_eq_false_of_mem (w.toNat_mem_of_mem_letters c (List.mem_of_mem_head? hc))
  have htake : w.text.takeWhile Char.isDigit = w.digits :=
    takeWhile_append_of_forall w.isDigit_of_mem hrest
  have hdrop : w.text.dropWhile Char.isDigit = w.blanks ++ w.letters :=
    dropWhile_append_of_forall w.isDigit_of_mem hrest
  have hblanks : (w.blanks ++ w.letters).dropWhile isBlank = w.letters :=
    dropWhile_append_of_forall w.isBlank_of_mem hletters
  -- a number that reaches the limit only gets larger by the shift
  have hshift : w.number ≤ w.number * 2 ^ w.exponent :=
    Nat.le_mul_of_pos_right _ (Nat.two_pow_pos _)
  have hlimit : (w.number < limit ∧ w.number * 2 ^ w.exponent < limit) ↔
      w.number * 2 ^ w.exponent < limit :=
    ⟨And.right, fun h => ⟨Nat.lt_of_le_of_lt hshift h, h⟩⟩
  simp only [readTrimmed?, htake, hdrop, hblanks, w.takeUnit_letters, w.dropLetter_i,
    w.dropLetter_b, decimal_eq_value, Nat.pow_eq, Bool.and_eq_true, decide_eq_true_eq]
  rw [← number, if_neg (by simp [w.digits_ne_nil])]
  simp only [hlimit]

end Spelling

/-! ## What is read is spelled -/

/-- Only spellings are read. -/
lemma exists_spelling_of_readTrimmed? {cs : List Char} {n : ℕ} (h : readTrimmed? cs = some n) :
    ∃ w : Spelling SameLetter, w.text = cs := by
  obtain ⟨unit, hunit, hcs⟩ :=
    exists_takeUnit ((cs.dropWhile Char.isDigit).dropWhile isBlank)
  generalize htake : takeUnit ((cs.dropWhile Char.isDigit).dropWhile isBlank) = taken at hcs
  obtain ⟨i, hi, htaken⟩ := exists_dropLetter 'i' taken.2
  obtain ⟨b, hb, hrest⟩ := exists_dropLetter 'b' (dropLetter 'i' taken.2)
  simp only [readTrimmed?, htake] at h
  split at h
  · contradiction
  next hparts =>
    simp only [Bool.or_eq_true, Bool.not_eq_true', not_or, Bool.not_eq_true,
      Bool.not_eq_false] at hparts
    obtain ⟨hdigits, hend⟩ := hparts
    rw [List.isEmpty_iff.mp hend, List.append_nil] at hrest
    let w : Spelling SameLetter :=
      { digits := cs.takeWhile Char.isDigit
        blanks := (cs.dropWhile Char.isDigit).takeWhile isBlank
        unit, i, b
        digits_ne_nil := by simpa using hdigits
        isDigit_of_mem := fun c hc => List.mem_takeWhile_imp hc
        isBlank_of_mem := fun c hc => List.mem_takeWhile_imp hc
        takes_unit := fun c hc => isUnit_iff.mp (hunit c hc)
        takes_i := fun c hc => (sameLetter_iff_toLower (by decide)).mpr (hi c hc)
        takes_b := fun c hc => (sameLetter_iff_toLower (by decide)).mpr (hb c hc) }
    refine ⟨w, ?_⟩
    calc w.text
        = cs.takeWhile Char.isDigit ++ ((cs.dropWhile Char.isDigit).takeWhile isBlank ++
          (cs.dropWhile Char.isDigit).dropWhile isBlank) := by
            rw [hcs, htaken, hrest]
            rfl
      _ = cs := by rw [List.takeWhile_append_dropWhile, List.takeWhile_append_dropWhile]

/-! ## Blanks at the ends -/

section Trimming

variable {front core back : List Char}

/-- Trimming takes away blanks and nothing else. -/
lemma exists_blanks_trimBlank (cs : List Char) : ∃ front back : List Char,
    (∀ c ∈ front, isBlank c = true) ∧ (∀ c ∈ back, isBlank c = true) ∧
      cs = front ++ trimBlank cs ++ back := by
  let middle := cs.dropWhile isBlank
  have hmiddle : middle = trimBlank cs ++ (middle.reverse.takeWhile isBlank).reverse := by
    rw [trimBlank, ← List.reverse_append, List.takeWhile_append_dropWhile, List.reverse_reverse]
  refine ⟨cs.takeWhile isBlank, (middle.reverse.takeWhile isBlank).reverse,
    fun c hc => List.mem_takeWhile_imp hc,
    fun c hc => List.mem_takeWhile_imp (List.mem_reverse.mp hc), ?_⟩
  rw [List.append_assoc, ← hmiddle, List.takeWhile_append_dropWhile]

/-- Trimming takes away all the blanks at the ends. -/
lemma trimBlank_append (hfront : ∀ c ∈ front, isBlank c = true)
    (hback : ∀ c ∈ back, isBlank c = true) (hcore : core ≠ [])
    (hhead : ∀ c ∈ core.head?, isBlank c = false)
    (hlast : ∀ c ∈ core.getLast?, isBlank c = false) :
    trimBlank (front ++ core ++ back) = core := by
  have hleft : (front ++ core ++ back).dropWhile isBlank = core ++ back := by
    rw [List.append_assoc]
    exact dropWhile_append_of_forall hfront (by rwa [List.head?_append_of_ne_nil _ hcore])
  have hright : (back.reverse ++ core.reverse).dropWhile isBlank = core.reverse :=
    dropWhile_append_of_forall (by simpa using hback) (by simpa using hlast)
  rw [trimBlank, hleft, List.reverse_append, hright, List.reverse_reverse]

end Trimming

namespace Spelling

variable {Takes : Char → Char → Prop}

/-- Whether a text is the spelling, blanks at its ends aside. -/
def Spells (w : Spelling Takes) (cs : List Char) : Prop :=
  ∃ front back : List Char, (∀ c ∈ front, isBlank c = true) ∧ (∀ c ∈ back, isBlank c = true) ∧
    cs = front ++ w.text ++ back

lemma Spells.mem_of_mem_letters {w : Spelling Takes} {cs : List Char} (h : w.Spells cs) :
    ∀ c ∈ w.letters, c ∈ cs := by
  obtain ⟨front, back, -, -, rfl⟩ := h
  intro c hc
  simp [text, hc]

variable (w : Spelling SameLetter)

lemma isBlank_eq_false_of_mem_head? : ∀ c ∈ w.text.head?, isBlank c = false := by
  intro c hc
  rw [text, List.head?_append_of_ne_nil _ w.digits_ne_nil] at hc
  exact isBlank_eq_false_of_isDigit (w.isDigit_of_mem c (List.mem_of_mem_head? hc))

lemma text_ne_nil : w.text ≠ [] := List.append_ne_nil_of_left_ne_nil w.digits_ne_nil _

/-- Blanks that no letter follows belong to the end of the text. -/
lemma exists_trimmed : ∃ (v : Spelling SameLetter) (blanks : List Char),
    v.digits = w.digits ∧ v.unit = w.unit ∧ (∀ c ∈ blanks, isBlank c = true) ∧
      w.text = v.text ++ blanks ∧ ∀ c ∈ v.text.getLast?, isBlank c = false := by
  rcases List.eq_nil_or_concat w.letters with hnil | ⟨letters, last, hlast⟩
  · refine ⟨{ w with blanks := [], isBlank_of_mem := by simp }, w.blanks, rfl, rfl,
      w.isBlank_of_mem, ?_, ?_⟩
    · change w.digits ++ (w.blanks ++ w.letters) = w.digits ++ ([] ++ w.letters) ++ w.blanks
      simp [hnil]
    · intro c hc
      change c ∈ (w.digits ++ ([] ++ w.letters)).getLast? at hc
      rw [hnil, List.append_nil, List.append_nil] at hc
      exact isBlank_eq_false_of_isDigit (w.isDigit_of_mem c (List.mem_of_mem_getLast? hc))
  · refine ⟨w, [], rfl, rfl, by simp, by simp, ?_⟩
    have hmem : last ∈ w.letters := by simp [hlast]
    simp [text, hlast, isBlank_eq_false_of_mem (w.toNat_mem_of_mem_letters last hmem)]

/-- Trimmed, a text that is a spelling is read as that spelling is. -/
lemma readTrimmed?_trimBlank {cs : List Char} (h : w.Spells cs) :
    readTrimmed? (trimBlank cs) = readTrimmed? w.text := by
  obtain ⟨front, back, hfront, hback, rfl⟩ := h
  obtain ⟨v, blanks, hdigits, hunit, hblanks, htext, hlast⟩ := w.exists_trimmed
  have htrim : trimBlank (front ++ w.text ++ back) = v.text := by
    have hends : ∀ c ∈ blanks ++ back, isBlank c = true := by
      simpa only [List.forall_mem_append] using ⟨hblanks, hback⟩
    rw [htext, List.append_assoc, List.append_assoc, ← List.append_assoc front]
    exact trimBlank_append hfront hends v.text_ne_nil v.isBlank_eq_false_of_mem_head? hlast
  have hnumber : v.number = w.number := by rw [number, number, hdigits]
  have hexponent : v.exponent = w.exponent := by rw [exponent, exponent, hunit]
  rw [htrim, readTrimmed?_text, readTrimmed?_text, hnumber, hexponent]

end Spelling

/-- What a text is read as, if it is a spelling. -/
lemma read?_of_spells {w : Spelling SameLetter} {s : String} (h : w.Spells s.toList) : read? s =
    if w.number * 2 ^ w.exponent < limit then some (w.number * 2 ^ w.exponent) else none := by
  rw [read?, w.readTrimmed?_trimBlank h, w.readTrimmed?_text]

/-- The sizes of `n` bytes are the spellings whose shifted number is `n` and below the limit. -/
theorem read?_eq_some_iff {s : String} {n : ℕ} : read? s = some n ↔
    ∃ w : Spelling SameLetter, w.Spells s.toList ∧ n = w.number * 2 ^ w.exponent ∧ n < limit := by
  constructor
  · intro h
    obtain ⟨front, back, hfront, hback, hs⟩ := exists_blanks_trimBlank s.toList
    obtain ⟨w, hw⟩ := exists_spelling_of_readTrimmed? h
    rw [read?, ← hw, w.readTrimmed?_text] at h
    split at h
    next hlimit =>
      obtain rfl := Option.some.inj h
      exact ⟨w, ⟨front, back, hfront, hback, by rw [hw, ← hs]⟩, rfl, hlimit⟩
    · contradiction
  · rintro ⟨w, hw, rfl, hlimit⟩
    rw [read?_of_spells hw, if_pos hlimit]

end ByteCount

end FileSieve
