import Mathlib.Data.String.Basic

/-!
# The byte order of texts

Names are kept in the order of their characters.  UTF-8 is laid out so that this is also the order
of their bytes: of two encoded characters the larger one has a larger byte at the first place at
which they differ, whatever follows.  `Text.bytes_lt` says so of texts.
-/

namespace FileSieve.Text

/-- The bytes of a text in UTF-8. -/
def bytes (text : String) : List UInt8 :=
  text.toUTF8.data.toList

lemma bytes_eq_flatMap (text : String) :
    bytes text = text.toList.flatMap String.utf8EncodeChar := by
  rw [bytes, String.toUTF8, ← String.utf8Encode_toList, List.utf8Encode,
    List.toList_data_toByteArray]

lemma utf8EncodeChar_append_lt {c d : Char} (h : c < d) (x y : List UInt8) :
    String.utf8EncodeChar c ++ x < String.utf8EncodeChar d ++ y := by
  rw [Char.lt_def, UInt32.lt_iff_toNat_lt] at h
  have hd : d.val.toNat < 0x110000 := by
    obtain hlow | hhigh := d.valid <;> omega
  simp only [String.utf8EncodeChar]
  generalize c.val.toNat = m at *
  generalize d.val.toNat = n at *
  -- A case for each pair of lengths; what is compared are digits, which all fit into a byte.
  split_ifs <;>
    simp (disch := omega) only [List.cons_append, List.cons_lt_cons_iff, UInt8.lt_iff_toNat_lt,
      ← UInt8.toNat_inj, UInt8.toNat_ofNat', Nat.mod_eq_of_lt] <;>
    omega

lemma flatMap_utf8EncodeChar_lt {cs ds : List Char} (h : cs < ds) :
    cs.flatMap String.utf8EncodeChar < ds.flatMap String.utf8EncodeChar := by
  induction h with
  | @nil d ds =>
    obtain ⟨b, bs, hbytes⟩ := List.exists_cons_of_ne_nil (String.utf8EncodeChar_ne_nil (c := d))
    simp [hbytes]
  | rel h => simpa using utf8EncodeChar_append_lt h _ _
  | cons _ ih => simpa using List.append_left_lt ih

/-- The order of texts is that of their bytes. -/
theorem bytes_lt {s t : String} (h : s < t) : bytes s < bytes t := by
  rw [bytes_eq_flatMap, bytes_eq_flatMap]
  exact flatMap_utf8EncodeChar_lt (String.lt_iff_toList_lt.mp h)

end FileSieve.Text
