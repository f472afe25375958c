import Mathlib.Tactic.Common
import FileSieve.Proofs.Text.CodeSet
import FileSieve.Proofs.Text.Numeral
import FileSieve.Text.Folding

/-!
# Case variants

A pattern that ignores case takes a character for a letter if the letter's folded set holds it
(`Text.SameLetter`).  Folding adds to a set every orbit that the set meets
(`CodeSet.contains_foldCase`), so the characters that are taken for a letter are those in its orbit
(`Text.sameLetter_iff`).

Of all orbits six matter to sizes, those of the letters that sizes are written with
(`Text.sizeOrbits`).  The others consist of points that are neither blank nor a digit nor one of
those letters (`Text.inert_or_mem_sizeOrbits`), so `SameLetter` is known wherever sizes ask for it.
-/

namespace FileSieve

namespace Text

/-! ## Folding -/

/-- The orbits of simple case folding. -/
def orbits : List (List ℕ) := foldPairs.map (fun p => [p.1, p.2]) ++ foldOrbits

section Folding

variable {s : CodeSet} {x : ℕ}

/-- The points of an orbit that are missing, if the set meets the orbit. -/
def missing (s : CodeSet) (orbit : List ℕ) : List ℕ :=
  if orbit.any s.contains then orbit.filter fun y => !s.contains y else []

lemma mem_missing {orbit : List ℕ} : x ∈ missing s orbit ↔
    s.contains x = false ∧ x ∈ orbit ∧ ∃ n ∈ orbit, s.contains n = true := by
  by_cases h : ∃ n ∈ orbit, s.contains n = true
  · have hany : orbit.any s.contains = true := List.any_eq_true.mpr h
    simp [missing, hany, h, and_comm]
  · have hany : ¬ orbit.any s.contains = true := fun hany => h (List.any_eq_true.mp hany)
    simp only [missing, if_neg hany, List.not_mem_nil, h, and_false]

/-- Pairs are orbits like the others. -/
lemma foldedPoints_eq (s : CodeSet) : foldedPoints s = orbits.flatMap (missing s) := by
  rw [foldedPoints, orbits, List.flatMap_append, List.flatMap_map]
  congr 1
  refine List.flatMap_congr fun p _ => ?_
  cases h₁ : s.contains p.1 <;> cases h₂ : s.contains p.2 <;> simp [missing, h₁, h₂]

/-- The points to add are those outside that share an orbit with a point inside. -/
lemma mem_foldedPoints : x ∈ foldedPoints s ↔
    s.contains x = false ∧ ∃ orbit ∈ orbits, x ∈ orbit ∧ ∃ n ∈ orbit, s.contains n = true := by
  rw [foldedPoints_eq, List.mem_flatMap]
  constructor
  · rintro ⟨orbit, horbit, hx⟩
    obtain ⟨hout, hmem⟩ := mem_missing.mp hx
    exact ⟨hout, orbit, horbit, hmem⟩
  · rintro ⟨hout, orbit, horbit, hmem⟩
    exact ⟨orbit, horbit, mem_missing.mpr ⟨hout, hmem⟩⟩

end Folding

end Text

/-- Folding adds the orbits that the set meets. -/
lemma CodeSet.contains_foldCase {s : CodeSet} (hs : s.Ordered) (x : ℕ) :
    s.foldCase.contains x = true ↔ s.contains x = true ∨
      ∃ orbit ∈ Text.orbits, x ∈ orbit ∧ ∃ n ∈ orbit, s.contains n = true := by
  rw [foldCase, contains_union hs (ordered_ofPoints _), Bool.or_eq_true, contains_ofPoints,
    Text.mem_foldedPoints]
  cases s.contains x <;> simp

namespace Text

/-- Whether a pattern that ignores case takes `c` for the letter `d`. -/
def SameLetter (c d : Char) : Prop :=
  (CodeSet.singleton d.toNat).foldCase.containsChar c = true

/-- A character is taken for itself and for the others of its orbit. -/
lemma sameLetter_iff {c d : Char} : SameLetter c d ↔
    c = d ∨ ∃ orbit ∈ orbits, c.toNat ∈ orbit ∧ d.toNat ∈ orbit := by
  simp only [SameLetter, CodeSet.containsChar, CodeSet.contains_foldCase
    (CodeSet.ordered_singleton _), CodeSet.contains_singleton, exists_eq_right, Char.toNat_inj]

/-! ## The letters of sizes -/

/-- The orbits of the letters `b`, `g`, `i`, `k`, `m` and `t`. -/
def sizeOrbits : List (List ℕ) :=
  [[0x42, 0x62], [0x47, 0x67], [0x49, 0x69], [0x4B, 0x6B, 0x212A], [0x4D, 0x6D], [0x54, 0x74]]

/-- Whether sizes have no use for a code point: it lies in one of the gaps between the blank
characters, or it is an ASCII letter outside the `sizeOrbits`. -/
def Inert (n : ℕ) : Prop :=
  0x3001 ≤ n ∨ (0xA1 ≤ n ∧ n ≤ 0x167F) ∨ (0x1681 ≤ n ∧ n ≤ 0x1FFF) ∨
    (0x212B ≤ n ∧ n ≤ 0x2FFF) ∨ (0x2060 ≤ n ∧ n ≤ 0x2129) ∨
    (0x41 ≤ n ∧ n ≤ 0x7A ∧ n ∉ sizeOrbits.flatten)

instance : DecidablePred Inert := fun _ => inferInstanceAs (Decidable (_ ∨ _ ∨ _ ∨ _ ∨ _ ∨ _))

section Inert

variable {c : Char}

lemma Inert.notMem (h : Inert c.toNat) : c.toNat ∉ sizeOrbits.flatten := by
  intro hmem
  have hpoints : ∀ n ∈ sizeOrbits.flatten, ¬ Inert n := by decide
  exact hpoints _ hmem h

lemma Inert.isBlank_eq_false (h : Inert c.toNat) : isBlank c = false := by
  rw [Bool.eq_false_iff]
  intro hblank
  have hpoints : ∀ n ∈ blankPoints, ¬ Inert n := by decide
  exact hpoints _ (toNat_mem_blankPoints hblank) h

lemma Inert.isDigit_eq_false (h : Inert c.toNat) : c.isDigit = false := by
  rw [Bool.eq_false_iff]
  intro hdigit
  have hle := toNat_le_of_isDigit hdigit
  unfold Inert at h
  omega

end Inert

lemma mem_orbits_of_mem_sizeOrbits : ∀ orbit ∈ sizeOrbits, orbit ∈ orbits := by
  decide +kernel

/-- No orbit has both points that sizes use and points that they do not use. -/
lemma inert_or_mem_sizeOrbits :
    ∀ orbit ∈ orbits, (∀ n ∈ orbit, Inert n) ∨ orbit ∈ sizeOrbits := by
  decide +kernel

/-- Characters that differ in case are letters of sizes, or sizes have no use for them. -/
lemma SameLetter.cases {c d : Char} (h : SameLetter c d) :
    c = d ∨ (∃ orbit ∈ sizeOrbits, c.toNat ∈ orbit ∧ d.toNat ∈ orbit) ∨
      (Inert c.toNat ∧ Inert d.toNat) := by
  obtain rfl | ⟨orbit, horbit, hc, hd⟩ := sameLetter_iff.mp h
  · exact .inl rfl
  · rcases inert_or_mem_sizeOrbits orbit horbit with hinert | hsize
    · exact .inr (.inr ⟨hinert _ hc, hinert _ hd⟩)
    · exact .inr (.inl ⟨orbit, hsize, hc, hd⟩)

/-- The case variants of a letter of sizes are those in its orbit. -/
lemma sameLetter_iff_mem {orbit : List ℕ} (horbit : orbit ∈ sizeOrbits) {c d : Char}
    (hd : d.toNat ∈ orbit) : SameLetter c d ↔ c.toNat ∈ orbit := by
  have hdisjoint : ∀ x ∈ sizeOrbits, ∀ y ∈ sizeOrbits, ∀ n ∈ x, n ∈ y → x = y := by decide
  constructor
  · intro h
    obtain rfl | ⟨other, hother, hc, hmem⟩ | ⟨-, hinert⟩ := h.cases
    · exact hd
    · rwa [hdisjoint orbit horbit other hother _ hd hmem]
    · exact absurd (List.mem_flatten.mpr ⟨orbit, horbit, hd⟩) hinert.notMem
  · intro hc
    exact sameLetter_iff.mpr (.inr ⟨orbit, mem_orbits_of_mem_sizeOrbits orbit horbit, hc, hd⟩)

lemma toNat_mem_of_sameLetter {c d : Char} (hd : d.toNat ∈ sizeOrbits.flatten)
    (h : SameLetter c d) : c.toNat ∈ sizeOrbits.flatten := by
  obtain ⟨orbit, horbit, hmem⟩ := List.mem_flatten.mp hd
  exact List.mem_flatten.mpr ⟨orbit, horbit, (sameLetter_iff_mem horbit hmem).mp h⟩

section Points

variable {c : Char}

/-- The letters of sizes are neither digits nor blank. -/
lemma isDigit_eq_false_of_mem (h : c.toNat ∈ sizeOrbits.flatten) : c.isDigit = false := by
  rw [Bool.eq_false_iff]
  intro hdigit
  have hpoints : ∀ n ∈ sizeOrbits.flatten, 57 < n := by decide
  have hlt := hpoints _ h
  have hle := toNat_le_of_isDigit hdigit
  omega

lemma isBlank_eq_false_of_mem (h : c.toNat ∈ sizeOrbits.flatten) : isBlank c = false := by
  rw [Bool.eq_false_iff]
  intro hblank
  have hpoints : ∀ n ∈ sizeOrbits.flatten, n ∉ blankPoints := by decide
  exact hpoints _ h (toNat_mem_blankPoints hblank)

end Points

end Text

end FileSieve
