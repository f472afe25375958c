import Mathlib.Data.List.Forall2
import FileSieve.Proofs.ByteCount.Reading

/-!
# Units in other spellings

If letters of a size are replaced by case variants, a size of the same form is spelled
(`ByteCount.Spelling.exists_variant_spells`).  It is the same size as long as no Kelvin sign comes
or goes (`ByteCount.read?_caseVariants`).  The sign is a case variant of `k` and is let through as a
unit, but the choice of the power lowers letters of ASCII only, so that it ends up as the largest
unit (`ByteCount.read?_kelvinSign`).
-/

namespace FileSieve

open Text

namespace Text

/-! ## Case variants -/

section SameLetter

variable {c d letter : Char}

lemma SameLetter.symm (h : SameLetter c d) : SameLetter d c := by
  obtain rfl | ⟨orbit, horbit, hc, hd⟩ := sameLetter_iff.mp h
  · exact sameLetter_iff.mpr (.inl rfl)
  · exact sameLetter_iff.mpr (.inr ⟨orbit, horbit, hd, hc⟩)

/-- A case variant of what stands for a letter stands for the letter, too. -/
lemma SameLetter.trans_letter (hletter : letter.toNat ∈ sizeOrbits.flatten) (h : SameLetter c d)
    (hd : SameLetter d letter) : SameLetter c letter := by
  obtain ⟨orbit, horbit, hmem⟩ := List.mem_flatten.mp hletter
  have hpoint : d.toNat ∈ orbit := (sameLetter_iff_mem horbit hmem).mp hd
  exact (sameLetter_iff_mem horbit hmem).mpr ((sameLetter_iff_mem horbit hpoint).mp h)

/-- Digits and blanks have no case. -/
lemma SameLetter.eq_of_isDigit_or_isBlank (h : SameLetter c d)
    (hd : d.isDigit = true ∨ isBlank d = true) : c = d := by
  obtain rfl | ⟨orbit, horbit, -, hmem⟩ | ⟨-, hinert⟩ := h.cases
  · rfl
  · have hpoint := List.mem_flatten.mpr ⟨orbit, horbit, hmem⟩
    simp [isDigit_eq_false_of_mem hpoint, isBlank_eq_false_of_mem hpoint] at hd
  · simp [hinert.isDigit_eq_false, hinert.isBlank_eq_false] at hd

lemma eq_of_forall₂_sameLetter {cs ds : List Char} (h : List.Forall₂ SameLetter cs ds)
    (hds : ∀ d ∈ ds, d.isDigit = true ∨ isBlank d = true) : cs = ds := by
  induction h with
  | nil => rfl
  | cons hsame _ ih =>
    rw [List.forall_mem_cons] at hds
    rw [hsame.eq_of_isDigit_or_isBlank hds.1, ih hds.2]

end SameLetter

end Text

namespace ByteCount

section Variants

variable {β : Type} {R : β → β → Prop}

lemma exists_append_of_forall₂ {xs ys zs : List β} (h : List.Forall₂ R zs (xs ++ ys)) :
    ∃ xs' ys', zs = xs' ++ ys' ∧ List.Forall₂ R xs' xs ∧ List.Forall₂ R ys' ys :=
  ⟨zs.take xs.length, zs.drop xs.length, (List.take_append_drop _ _).symm,
    List.forall₂_take_append _ _ _ h, List.forall₂_drop_append _ _ _ h⟩

lemma exists_toList_of_forall₂ {x : Option β} {zs : List β} (h : List.Forall₂ R zs x.toList) :
    ∃ y : Option β, zs = y.toList ∧ Option.Rel R y x := by
  cases x with
  | none => exact ⟨none, List.forall₂_nil_right_iff.mp h, .none⟩
  | some x =>
    obtain ⟨y, rest, hyx, hrest, rfl⟩ := List.forall₂_cons_right_iff.mp h
    exact ⟨some y, by rw [List.forall₂_nil_right_iff.mp hrest]; rfl, .some hyx⟩

lemma exists_mem_of_rel {x y : Option β} (h : Option.Rel R y x) : ∀ c ∈ y, ∃ d ∈ x, R c d := by
  cases h with
  | none => simp
  | some hyx => simpa using hyx

end Variants

namespace Spelling

variable (w : Spelling SameLetter)

/-- Without a Kelvin sign for a unit, reading takes the unit for what it is. -/
lemma hasExponent_iff {e : ℕ} (h : kelvinSign ∉ w.unit) : w.HasExponent e ↔ e = w.exponent := by
  rw [HasExponent, exponent]
  cases hunit : w.unit with
  | none => exact Iff.rfl
  | some c =>
    have hkelvin : c ≠ kelvinSign := by
      rintro rfl
      exact h hunit
    constructor
    · rintro ⟨letter, hentry, hsame⟩
      exact (unitExponent_eq hentry hsame hkelvin).symm
    · rintro rfl
      obtain ⟨⟨letter, e⟩, hentry, hsame⟩ := w.takes_unit c hunit
      exact ⟨letter, by rwa [Option.elim_some, unitExponent_eq hentry hsame hkelvin], hsame⟩

lemma StandsFor.variant {x y : Option Char} {e : ℕ} (h : StandsFor SameLetter x e)
    (hvariant : Option.Rel SameLetter y x) : StandsFor SameLetter y e := by
  cases hvariant with
  | none => exact h
  | some hsame =>
    obtain ⟨letter, hentry, htakes⟩ := h
    exact ⟨letter, hentry, hsame.trans_letter (toNat_mem_of_mem_unitLetters _ hentry) htakes⟩

/-- If letters of a spelling are replaced by case variants, the same size is spelled. -/
lemma exists_variant {cs : List Char} (h : List.Forall₂ SameLetter cs w.text) :
    ∃ v : Spelling SameLetter, v.text = cs ∧ v.digits = w.digits ∧
      ∀ e, w.HasExponent e → v.HasExponent e := by
  obtain ⟨digits, rest, rfl, hdigits, hrest⟩ := exists_append_of_forall₂ h
  obtain ⟨blanks, letters, rfl, hblanks, hletters⟩ := exists_append_of_forall₂ hrest
  obtain ⟨us, tail, rfl, hus, htail⟩ := exists_append_of_forall₂ hletters
  obtain ⟨is, bs, rfl, his, hbs⟩ := exists_append_of_forall₂ htail
  obtain ⟨unit, rfl, hunit⟩ := exists_toList_of_forall₂ hus
  obtain ⟨i, rfl, hi⟩ := exists_toList_of_forall₂ his
  obtain ⟨b, rfl, hb⟩ := exists_toList_of_forall₂ hbs
  obtain rfl := eq_of_forall₂_sameLetter hdigits fun d hd => .inl (w.isDigit_of_mem d hd)
  obtain rfl := eq_of_forall₂_sameLetter hblanks fun d hd => .inr (w.isBlank_of_mem d hd)
  let v : Spelling SameLetter :=
    { w with
      unit, i, b
      takes_unit := by
        intro c hc
        obtain ⟨d, hd, hsame⟩ := exists_mem_of_rel hunit c hc
        obtain ⟨entry, hentry, htakes⟩ := w.takes_unit d hd
        exact ⟨entry, hentry, hsame.trans_letter (toNat_mem_of_mem_unitLetters _ hentry) htakes⟩
      takes_i := by
        intro c hc
        obtain ⟨d, hd, hsame⟩ := exists_mem_of_rel hi c hc
        exact hsame.trans_letter (by decide) (w.takes_i d hd)
      takes_b := by
        intro c hc
        obtain ⟨d, hd, hsame⟩ := exists_mem_of_rel hb c hc
        exact hsame.trans_letter (by decide) (w.takes_b d hd) }
  exact ⟨v, rfl, rfl, fun e he => he.variant hunit⟩

/-- A Kelvin sign in a size is its unit. -/
lemma Spells.kelvinSign_mem_iff {w : Spelling SameLetter} {cs : List Char} (h : w.Spells cs) :
    kelvinSign ∈ cs ↔ kelvinSign ∈ w.unit := by
  have hblank : isBlank kelvinSign = false := rfl
  have hdigit : kelvinSign.isDigit = false := rfl
  refine ⟨fun hmem => ?_, fun hmem => h.mem_of_mem_letters _ (mem_letters.mpr (.inl hmem))⟩
  obtain ⟨front, back, hfront, hback, rfl⟩ := h
  simp only [text, List.mem_append] at hmem
  rcases hmem with (hmem | hmem | hmem | hmem) | hmem
  · simp [hfront _ hmem] at hblank
  · simp [w.isDigit_of_mem _ hmem] at hdigit
  · simp [w.isBlank_of_mem _ hmem] at hblank
  · rcases mem_letters.mp hmem with hunit | hi | hb
    · exact hunit
    · exact absurd (w.toLower_i _ hi) (by decide)
    · exact absurd (w.toLower_b _ hb) (by decide)
  · simp [hback _ hmem] at hblank

lemma exponent_of_mem (h : kelvinSign ∈ w.unit) : w.exponent = 40 := by
  rw [exponent, Option.mem_def.mp h]
  exact unitExponent_kelvinSign

/-- A pattern takes the Kelvin sign for a `k`. -/
lemma eq_ten_of_hasExponent {e : ℕ} (h : kelvinSign ∈ w.unit) (he : w.HasExponent e) : e = 10 := by
  rw [HasExponent, Option.mem_def.mp h] at he
  obtain ⟨letter, hentry, hsame⟩ := he
  simp only [unitLetters, List.mem_cons, Prod.mk.injEq, List.not_mem_nil, or_false] at hentry
  rcases hentry with ⟨-, rfl⟩ | ⟨rfl, -⟩ | ⟨rfl, -⟩ | ⟨rfl, -⟩
  · rfl
  all_goals exact absurd ((sameLetter_iff_toLower (by decide)).mp hsame) (by decide)

lemma exists_hasExponent : ∃ e, w.HasExponent e := by
  simp only [HasExponent]
  cases hunit : w.unit with
  | none => exact ⟨0, rfl⟩
  | some c =>
    obtain ⟨⟨letter, e⟩, hentry, hsame⟩ := w.takes_unit c hunit
    exact ⟨e, letter, hentry, hsame⟩

lemma exists_variant_spells {cs ds : List Char} (h : w.Spells cs)
    (hvariant : List.Forall₂ SameLetter ds cs) : ∃ v : Spelling SameLetter, v.Spells ds ∧
      v.digits = w.digits ∧ ∀ e, w.HasExponent e → v.HasExponent e := by
  obtain ⟨front, back, hfront, hback, rfl⟩ := h
  obtain ⟨fm, back', rfl, hfm, hback'⟩ := exists_append_of_forall₂ hvariant
  obtain ⟨front', middle, rfl, hfront', hmiddle⟩ := exists_append_of_forall₂ hfm
  obtain rfl := eq_of_forall₂_sameLetter hfront' fun d hd => .inr (hfront d hd)
  obtain rfl := eq_of_forall₂_sameLetter hback' fun d hd => .inr (hback d hd)
  obtain ⟨v, rfl, hdigits, hexponent⟩ := w.exists_variant hmiddle
  exact ⟨v, ⟨front', back', hfront, hback, rfl⟩, hdigits, hexponent⟩

end Spelling

/-! ## Texts -/

section Texts

variable {s t : String} {w : Spelling SameLetter}

lemma read?_eq_none (h : ¬ ∃ w : Spelling SameLetter, w.Spells s.toList) : read? s = none := by
  refine Option.eq_none_iff_forall_ne_some.mpr fun n hn => h ?_
  obtain ⟨w, hspells, -⟩ := read?_eq_some_iff.mp hn
  exact ⟨w, hspells⟩

/-- The smallest unit and the largest one agree on nothing and on what is too much for both. -/
lemma shift_eq_iff (m : ℕ) :
    ((if m * 2 ^ 40 < limit then some (m * 2 ^ 40) else none) =
      if m * 2 ^ 10 < limit then some (m * 2 ^ 10) else none) ↔
        ¬ (0 < m ∧ m * 2 ^ 10 < 2 ^ 64) := by
  have hlimit : limit = 2 ^ 64 := rfl
  rw [hlimit]
  split <;> split <;> simp only [Option.some.injEq, reduceCtorEq, true_iff, false_iff] <;> omega

/-- Variants that spell a size agree unless just one of them has the sign, which makes a difference
for a number that is positive and not too large. -/
lemma read?_eq_read?_iff {v : Spelling SameLetter} (hs : w.Spells s.toList)
    (ht : v.Spells t.toList) (hdigits : v.digits = w.digits)
    (hexponent : ∀ e, w.HasExponent e → v.HasExponent e) :
    read? s = read? t ↔ (0 < w.number ∧ w.number * 2 ^ 10 < 2 ^ 64 →
      (kelvinSign ∈ s.toList ↔ kelvinSign ∈ t.toList)) := by
  have hnumber : v.number = w.number := by rw [Spelling.number, Spelling.number, hdigits]
  obtain ⟨e, hw⟩ := w.exists_hasExponent
  have hv := hexponent e hw
  rw [read?_of_spells hs, read?_of_spells ht, hnumber, hs.kelvinSign_mem_iff,
    ht.kelvinSign_mem_iff]
  -- with the sign in both texts or in neither the exponents agree, otherwise they are 40 and 10
  by_cases hws : kelvinSign ∈ w.unit <;> by_cases hvt : kelvinSign ∈ v.unit
  · simp [hws, hvt, w.exponent_of_mem hws, v.exponent_of_mem hvt]
  · rw [w.exponent_of_mem hws, ← (v.hasExponent_iff hvt).mp hv, w.eq_ten_of_hasExponent hws hw,
      shift_eq_iff]
    simp [hws, hvt]
  · rw [v.exponent_of_mem hvt, ← (w.hasExponent_iff hws).mp hw, v.eq_ten_of_hasExponent hvt hv,
      eq_comm, shift_eq_iff]
    simp [hws, hvt]
  · simp [hws, hvt, ← (w.hasExponent_iff hws).mp hw, ← (v.hasExponent_iff hvt).mp hv]

end Texts

/-- Which units are read as what they are.  A text that is read is a spelling, and its unit is the
power of two of the letter that a pattern takes it for, unless it is a Kelvin sign behind a number
other than zero.  Variants of a text are read as the same size, or not at all, unless the text is a
size in kilobytes and just one of the two has the sign. -/
theorem read?_caseVariants (s t : String) :
    (∀ n, read? s = some n → (∃ w : Spelling SameLetter, w.Spells s.toList) ∧
      ∀ w : Spelling SameLetter, w.Spells s.toList → ∀ c ∈ w.unit, ∀ e, w.HasExponent e →
        (n = w.number * 2 ^ e ↔ c ≠ kelvinSign ∨ w.number = 0)) ∧
    (List.Forall₂ SameLetter s.toList t.toList → (read? s = read? t ↔
      ∀ w : Spelling SameLetter, w.Spells s.toList → 0 < w.number ∧ w.number * 2 ^ 10 < 2 ^ 64 →
        (kelvinSign ∈ s.toList ↔ kelvinSign ∈ t.toList))) := by
  refine ⟨fun n hn => ⟨?_, fun w hspells c hc e he => ?_⟩, fun h => ?_⟩
  · obtain ⟨w, hspells, -⟩ := read?_eq_some_iff.mp hn
    exact ⟨w, hspells⟩
  · rw [read?_of_spells hspells] at hn
    obtain ⟨-, rfl⟩ : _ ∧ w.number * 2 ^ w.exponent = n := by simpa using hn
    by_cases hkelvin : c = kelvinSign
    · subst hkelvin
      rw [w.exponent_of_mem hc, w.eq_ten_of_hasExponent hc he]
      simp only [ne_eq, not_true_eq_false, false_or]
      omega
    · have hunit : kelvinSign ∉ w.unit := fun hmem => hkelvin (Option.mem_unique hc hmem)
      simp [hkelvin, (w.hasExponent_iff hunit).mp he]
  · have hflip : List.Forall₂ SameLetter t.toList s.toList :=
      (h.imp fun _ _ hsame => hsame.symm).flip
    by_cases hspelled : ∃ w : Spelling SameLetter, w.Spells s.toList
    · obtain ⟨w, hspells⟩ := hspelled
      obtain ⟨v, hv, hdigits, hexponent⟩ := w.exists_variant_spells hspells hflip
      constructor
      · intro hread w' hspells' hnumber
        obtain ⟨v', hv', hdigits', hexponent'⟩ := w'.exists_variant_spells hspells' hflip
        exact (read?_eq_read?_iff hspells' hv' hdigits' hexponent').mp hread hnumber
      · intro hall
        exact (read?_eq_read?_iff hspells hv hdigits hexponent).mpr (hall w hspells)
    · have hnone : ¬ ∃ v : Spelling SameLetter, v.Spells t.toList := by
        rintro ⟨v, hv⟩
        obtain ⟨w, hspells, -⟩ := v.exists_variant_spells hv h
        exact hspelled ⟨w, hspells⟩
      rw [read?_eq_none hspelled, read?_eq_none hnone]
      simp only [true_iff]
      exact fun w hspells => absurd ⟨w, hspells⟩ hspelled

/-- Seven kilobytes with the unit in either case. -/
theorem read?_caseVariants_sevenKilobytes :
    read? "7K" = some (7 * 2 ^ 10) ∧ read? "7K" = read? "7k" := by
  let w : Spelling SameLetter :=
    { digits := ['7']
      blanks := []
      unit := some 'K'
      i := none
      b := none
      digits_ne_nil := by simp
      isDigit_of_mem := by simp
      isBlank_of_mem := by simp
      takes_unit := by
        intro c hc
        obtain rfl := Option.mem_some_iff.mp hc
        exact ⟨('k', 10), by decide, sameLetter_k_iff.mpr (.inl (by decide))⟩
      takes_i := by simp
      takes_b := by simp }
  have hw : w.Spells "7K".toList := ⟨[], [], by simp, by simp, by decide⟩
  have hread : (read? "7K").isSome = true := by decide
  obtain ⟨n, hn⟩ := Option.isSome_iff_exists.mp hread
  obtain ⟨hsizes, hvariants⟩ := read?_caseVariants "7K" "7k"
  have hkilo : w.HasExponent 10 := ⟨'k', by decide, sameLetter_k_iff.mpr (.inl (by decide))⟩
  have hvalue : n = 7 * 2 ^ 10 := ((hsizes n hn).2 w hw 'K' rfl 10 hkilo).mpr (.inl (by decide))
  have hk : SameLetter 'K' 'k' := sameLetter_k_iff.mpr (.inl (by decide))
  have hsame : List.Forall₂ SameLetter "7K".toList "7k".toList :=
    .cons (sameLetter_iff.mpr (.inl rfl)) (.cons hk .nil)
  exact ⟨by rw [hn, hvalue], (hvariants hsame).mpr fun _ _ _ => by decide⟩

/-- The Kelvin sign is a case variant of `k`, and yet `1` followed by the sign is not as many bytes
as `1k`. -/
theorem read?_kelvinSign : List.Forall₂ SameLetter "1\u212a".toList "1k".toList ∧
    read? "1k" = some (1 * 2 ^ 10) ∧ read? "1\u212a" = some (1 * 2 ^ 40) := by
  have hk : SameLetter kelvinSign 'k' := sameLetter_k_iff.mpr (.inr rfl)
  exact ⟨.cons (sameLetter_iff.mpr (.inl rfl)) (.cons hk .nil), by decide, by decide⟩

end ByteCount

end FileSieve
