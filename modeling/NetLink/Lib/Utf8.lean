import Mathlib.Data.List.TakeWhile

/-!
# UTF-8 texts and the zero byte

The bytes of a text, and what is left of them when they are read as a zero-terminated string. A
zero byte stands for the character U+0000 and is part of no other, so cutting the bytes at the
first zero is cutting the text at the first U+0000.
-/

namespace Utf8

/-- The bytes of a text. -/
def encode (cs : List Char) : List UInt8 := cs.flatMap String.utf8EncodeChar

theorem encode_cons (c : Char) (cs : List Char) :
    encode (c :: cs) = String.utf8EncodeChar c ++ encode cs := List.flatMap_cons

theorem toUTF8_eq (s : String) : s.toUTF8.data.toList = encode s.toList := by
  obtain ⟨cs, rfl⟩ := s.exists_eq_ofList
  rw [String.toList_ofList, String.toUTF8_eq_toByteArray, String.toByteArray_ofList, List.utf8Encode,
    List.data_toByteArray]
  rfl

theorem encode_inj {cs ds : List Char} (h : encode cs = encode ds) : cs = ds := by
  have hbytes : (String.ofList cs).toByteArray = (String.ofList ds).toByteArray := by
    rw [String.toByteArray_ofList, String.toByteArray_ofList]
    exact congrArg List.toByteArray h
  exact String.ofList_injective (String.toByteArray_inj.mp hbytes)

theorem zero_notMem_utf8EncodeChar {c : Char} (h : c ≠ '\x00') : 0 ∉ String.utf8EncodeChar c := by
  have hle := c.utf8Size_le_four
  have hpos := c.utf8Size_pos
  obtain h1 | h2 | h3 | h4 : c.utf8Size = 1 ∨ c.utf8Size = 2 ∨ c.utf8Size = 3 ∨ c.utf8Size = 4 := by
    omega
  · rw [String.utf8EncodeChar_eq_singleton h1]
    intro hmem
    have hzero : c.val.toNat % 256 = 0 :=
      (UInt32.toNat_toUInt8 _).symm.trans (congrArg UInt8.toNat (List.mem_singleton.mp hmem).symm)
    have hsmall : c.val.toNat ≤ 127 := UInt32.le_iff_toNat_le.mp (Char.utf8Size_eq_one_iff.mp h1)
    refine h (Char.ext (UInt32.toNat_inj.mp ?_))
    rw [show c.val.toNat = 0 by omega]
    rfl
  -- Every byte of a longer encoding has its top bit set.
  · rw [String.utf8EncodeChar_eq_cons_cons h2]
    simp [eq_comm (a := (0 : UInt8))]
  · rw [String.utf8EncodeChar_eq_cons_cons_cons h3]
    simp [eq_comm (a := (0 : UInt8))]
  · rw [String.utf8EncodeChar_eq_cons_cons_cons_cons h4]
    simp [eq_comm (a := (0 : UInt8))]

/-- What a zero-terminated reading of a text keeps. -/
theorem takeWhile_encode (cs : List Char) :
    (encode cs).takeWhile (· != 0) = encode (cs.takeWhile (· != '\x00')) := by
  induction cs with
  | nil => rfl
  | cons c cs ih =>
    rw [encode_cons]
    by_cases h : c = '\x00'
    · subst h
      rfl
    · have hkeep : ∀ b ∈ String.utf8EncodeChar c, (b != 0) = true := by
        intro b hb
        rw [bne_iff_ne]
        rintro rfl
        exact zero_notMem_utf8EncodeChar h hb
      rw [List.takeWhile_append_of_pos hkeep, ih, List.takeWhile_cons_of_pos (by simpa using h),
        encode_cons]

end Utf8
