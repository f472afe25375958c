import FileSieve.Builtin
import FileSieve.Proofs.ByteCount.Unit

/-!
# Bounds on the size of a file

Of an ASCII text, every size is a number, shifted by what the unit says and below `2 ^ 64`
(`ByteCount.read?_eq_some_iff_isSize`).  Both operands that compare sizes are prepared for exactly
these texts, and they are strict on either side of the same bound (`Builtin.sizeBounds_exact`).
-/

namespace FileSieve

open Text

namespace ByteCount

/-! ## Sizes in ASCII -/

/-- Whether a character is a small letter or its capital. -/
def EitherCase (c letter : Char) : Prop := c.toLower = letter

/-- The letters that sizes are written with. -/
def sizeLetters : List Char := ['k', 'm', 'g', 't', 'i', 'b']

lemma mem_sizeLetters_of_mem_unitLetters : ∀ entry ∈ unitLetters, entry.1 ∈ sizeLetters := by
  decide

/-- In ASCII, the case variants of a letter are its two cases. -/
lemma sameLetter_iff_eitherCase {c letter : Char} (hletter : letter ∈ sizeLetters)
    (hc : c.toNat < 0x80) : SameLetter c letter ↔ EitherCase c letter := by
  have hkelvin : c ≠ kelvinSign := by
    rintro rfl
    revert hc
    decide
  simp only [sizeLetters, List.mem_cons, List.not_mem_nil, or_false] at hletter
  rcases hletter with rfl | rfl | rfl | rfl | rfl | rfl
  · simp [sameLetter_k_iff, hkelvin, EitherCase]
  all_goals exact sameLetter_iff_toLower (by decide)

namespace Spelling

variable {Takes Takes' : Char → Char → Prop}

/-- The same spelling, if its letters may be taken in another way. -/
def retake (w : Spelling Takes)
    (h : ∀ c ∈ w.letters, ∀ letter ∈ sizeLetters, Takes c letter → Takes' c letter) :
    Spelling Takes' :=
  { w with
    takes_unit := by
      intro c hc
      obtain ⟨entry, hentry, htakes⟩ := w.takes_unit c hc
      have hletter := mem_sizeLetters_of_mem_unitLetters entry hentry
      exact ⟨entry, hentry, h c (mem_letters.mpr (.inl hc)) _ hletter htakes⟩
    takes_i := fun c hc =>
      h c (mem_letters.mpr (.inr (.inl hc))) _ (by decide) (w.takes_i c hc)
    takes_b := fun c hc =>
      h c (mem_letters.mpr (.inr (.inr hc))) _ (by decide) (w.takes_b c hc) }

variable {w : Spelling Takes}
  {h : ∀ c ∈ w.letters, ∀ letter ∈ sizeLetters, Takes c letter → Takes' c letter}

lemma spells_retake {cs : List Char} (hspells : w.Spells cs) : (w.retake h).Spells cs := hspells

@[simp] lemma number_retake : (w.retake h).number = w.number := rfl

lemma hasExponent_retake {e : ℕ} (he : w.HasExponent e) : (w.retake h).HasExponent e := by
  change StandsFor Takes' w.unit e
  rw [HasExponent] at he
  cases hunit : w.unit with
  | none => rwa [hunit] at he
  | some c =>
    rw [hunit] at he
    obtain ⟨letter, hentry, htakes⟩ := he
    have hletter := mem_sizeLetters_of_mem_unitLetters _ hentry
    exact ⟨letter, hentry, h c (mem_letters.mpr (.inl hunit)) _ hletter htakes⟩

end Spelling

/-- Whether an ASCII text is a size of the given number of bytes: blanks at its ends aside, it is
a number, blanks, perhaps a unit, perhaps an `i` and perhaps a `b`, and the number shifted by the
unit is below `2 ^ 64`. -/
def IsSize (cs : List Char) (count : ℕ) : Prop :=
  ∃ (w : Spelling EitherCase) (exponent : ℕ), w.Spells cs ∧ w.HasExponent exponent ∧
    count = w.number * 2 ^ exponent ∧ count < 2 ^ 64

lemma read?_eq_some_iff_isSize {s : String} (hascii : ∀ c ∈ s.toList, c.toNat < 0x80) {n : ℕ} :
    read? s = some n ↔ IsSize s.toList n := by
  have hkelvin : kelvinSign ∉ s.toList := fun hmem => absurd (hascii _ hmem) (by decide)
  rw [read?_eq_some_iff]
  constructor
  · rintro ⟨w, hspells, rfl, hlimit⟩
    have hunit : kelvinSign ∉ w.unit := fun hmem =>
      hkelvin (hspells.mem_of_mem_letters _ (Spelling.mem_letters.mpr (.inl hmem)))
    have htakes : ∀ c ∈ w.letters, ∀ letter ∈ sizeLetters,
        SameLetter c letter → EitherCase c letter := fun c hc letter hletter =>
      (sameLetter_iff_eitherCase hletter (hascii c (hspells.mem_of_mem_letters c hc))).mp
    exact ⟨w.retake htakes, w.exponent, Spelling.spells_retake hspells,
      Spelling.hasExponent_retake ((w.hasExponent_iff hunit).mpr rfl), rfl, hlimit⟩
  · rintro ⟨w, e, hspells, hexponent, rfl, hlimit⟩
    have htakes : ∀ c ∈ w.letters, ∀ letter ∈ sizeLetters,
        EitherCase c letter → SameLetter c letter := fun c hc letter hletter =>
      (sameLetter_iff_eitherCase hletter (hascii c (hspells.mem_of_mem_letters c hc))).mpr
    have hunit : kelvinSign ∉ (w.retake htakes).unit := fun hmem =>
      hkelvin (hspells.mem_of_mem_letters _ (Spelling.mem_letters.mpr (.inl hmem)))
    have he := ((w.retake htakes).hasExponent_iff hunit).mp (Spelling.hasExponent_retake hexponent)
    exact ⟨w.retake htakes, Spelling.spells_retake hspells, by rw [← he, Spelling.number_retake],
      hlimit⟩

end ByteCount

/-! ## The operands -/

namespace Builtin

open ByteCount

section Size

variable {bound : SizeBound} {s : String} {given : Option ℕ}

lemma prepare_size_eq_ok_iff {prepared : Builtin} :
    prepare (.size bound s given) = .ok prepared ↔
      ∃ n, read? s = some n ∧ prepared = .size bound s (some n) := by
  rw [prepare]
  cases read? s <;> simp [eq_comm]

lemma prepare_size_eq_error (h : read? s = none) :
    prepare (.size bound s given) = .error (.size s) := by
  rw [prepare, h]

lemma eval_size_iff (bound : SizeBound) (s : String) (n : ℕ) (subject : Subject) :
    eval (.size bound s (some n)) subject = true ↔ subject.fileType = some .file ∧
      ∃ size, subject.size = some size ∧ SizeBound.holds size n bound = true := by
  rcases hsize : subject.size with - | size <;> simp [eval, hsize]

end Size

/-- Both operands on sizes are prepared for the ASCII texts that are sizes, and refuse all others
with the text as it was given.  Prepared, they are strict bounds on either side of the size, so that
of regular files both leave out those of just that size. -/
theorem sizeBounds_exact (s : String) (hascii : ∀ c ∈ s.toList, c.toNat < 0x80) :
    (∀ bound given, (∃ prepared, prepare (.size bound s given) = .ok prepared) ↔
      ∃ n, IsSize s.toList n) ∧
    (∀ bound given, (¬ ∃ n, IsSize s.toList n) → ∃ refusal : Refusal,
      prepare (.size bound s given) = .error refusal ∧
        refusal.message = "invalid size: " ++ s) ∧
    ∀ n, IsSize s.toList n → ∃ larger smaller : Builtin,
      prepare (.size .larger s none) = .ok larger ∧
      prepare (.size .smaller s none) = .ok smaller ∧ ∀ subject : Subject,
        (eval larger subject = true ↔
          subject.fileType = some .file ∧ ∃ size, subject.size = some size ∧ n < size) ∧
        (eval smaller subject = true ↔
          subject.fileType = some .file ∧ ∃ size, subject.size = some size ∧ size < n) ∧
        ¬ (eval larger subject = true ∧ eval smaller subject = true) ∧
        ∀ size, subject.fileType = some .file → subject.size = some size →
          (eval larger subject = false ∧ eval smaller subject = false ↔ size = n) := by
  have hread : ∀ {n}, read? s = some n ↔ IsSize s.toList n := read?_eq_some_iff_isSize hascii
  refine ⟨fun bound given => ?_, fun bound given hnone => ?_, fun n hn => ?_⟩
  · constructor
    · rintro ⟨prepared, hprepared⟩
      obtain ⟨n, hn, -⟩ := prepare_size_eq_ok_iff.mp hprepared
      exact ⟨n, hread.mp hn⟩
    · rintro ⟨n, hn⟩
      exact ⟨_, prepare_size_eq_ok_iff.mpr ⟨n, hread.mpr hn, rfl⟩⟩
  · have hs : read? s = none :=
      Option.eq_none_iff_forall_ne_some.mpr fun n hn => hnone ⟨n, hread.mp hn⟩
    exact ⟨_, prepare_size_eq_error hs, rfl⟩
  · have hok : ∀ bound, prepare (.size bound s none) = .ok (.size bound s (some n)) := fun bound =>
      prepare_size_eq_ok_iff.mpr ⟨n, hread.mpr hn, rfl⟩
    refine ⟨_, _, hok .larger, hok .smaller, fun subject => ?_⟩
    have hlarger : eval (.size .larger s (some n)) subject = true ↔
        subject.fileType = some .file ∧ ∃ size, subject.size = some size ∧ n < size := by
      simpa only [SizeBound.holds, decide_eq_true_eq] using
        eval_size_iff .larger s n subject
    have hsmaller : eval (.size .smaller s (some n)) subject = true ↔
        subject.fileType = some .file ∧ ∃ size, subject.size = some size ∧ size < n := by
      simpa only [SizeBound.holds, decide_eq_true_eq] using
        eval_size_iff .smaller s n subject
    refine ⟨hlarger, hsmaller, ?_, fun size hfile hsize => ?_⟩
    · rw [hlarger, hsmaller]
      rintro ⟨⟨-, size, hsize, hlt⟩, -, other, hother, hgt⟩
      obtain rfl : size = other := Option.some.inj (hsize.symm.trans hother)
      omega
    · rw [← Bool.not_eq_true, ← Bool.not_eq_true, hlarger, hsmaller]
      simp only [hfile, hsize, true_and, Option.some.injEq, exists_eq_left']
      omega

/-- The largest number of terabytes is a bound, spelled with a leading zero and with blanks; the
next one is refused. -/
theorem sizeBounds_exact_terabytes :
    (∃ larger smaller : Builtin,
      prepare (.size .larger " 016777215 TiB " none) = .ok larger ∧
      prepare (.size .smaller " 016777215 TiB " none) = .ok smaller ∧
      eval larger { fileType := some .file, size := some (16777215 * 2 ^ 40 + 1) } = true ∧
      eval larger { fileType := some .file, size := some (16777215 * 2 ^ 40) } = false ∧
      eval smaller { fileType := some .file, size := some (16777215 * 2 ^ 40) } = false) ∧
    ∃ refusal : Refusal, prepare (.size .larger "16777216T" none) = .error refusal ∧
      refusal.message = "invalid size: 16777216T" := by
  have hascii : ∀ c ∈ " 016777215 TiB ".toList, c.toNat < 0x80 := by simp
  have hsize : IsSize " 016777215 TiB ".toList (16777215 * 2 ^ 40) :=
    (read?_eq_some_iff_isSize hascii).mp (by decide +kernel)
  have hascii' : ∀ c ∈ "16777216T".toList, c.toNat < 0x80 := by simp
  have hnone : ¬ ∃ n, IsSize "16777216T".toList n := by
    rintro ⟨n, hn⟩
    have hread : read? "16777216T" = none := by decide +kernel
    rw [(read?_eq_some_iff_isSize hascii').mpr hn] at hread
    cases hread
  refine ⟨?_, (sizeBounds_exact "16777216T" hascii').2.1 .larger none hnone⟩
  obtain ⟨larger, smaller, hlarger, hsmaller, heval⟩ :=
    (sizeBounds_exact " 016777215 TiB " hascii).2.2 _ hsize
  have hequal := ((heval { fileType := some .file, size := some (16777215 * 2 ^ 40) }).2.2.2 _
    rfl rfl).mpr rfl
  exact ⟨larger, smaller, hlarger, hsmaller,
    (heval _).1.mpr ⟨rfl, _, rfl, Nat.lt_succ_self _⟩, hequal⟩

end Builtin

end FileSieve
