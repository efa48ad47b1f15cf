import Mathlib.Data.List.Basic
import NetLink.Lib.Utf8
import NetLink.Model.Js

/-!
# JavaScript strings as C strings

The binding makes a `std::string` of a JavaScript string by the C-string constructor. What that
keeps is the text before the first U+0000: a string is carried over whole exactly when it has
none. An ASCII text is the bytes of one JavaScript string only, so comparing the bytes with a
literal is comparing the strings.
-/

namespace NetLink

namespace JsString

/-- The JS string of an ASCII literal. -/
def ascii (t : String) : JsString := t.toList.map fun c => UInt16.ofNat c.toNat

/-- What is left of a string that is cut before its first U+0000. -/
def beforeNul (s : JsString) : JsString := s.takeWhile (· != 0)

theorem beforeNul_eq_self {s : JsString} (h : 0 ∉ s) : s.beforeNul = s := by
  refine List.takeWhile_eq_self_iff.mpr ?_
  intro u hu
  rw [bne_iff_ne]
  rintro rfl
  exact h hu

/-! ## Code units -/

theorem isHigh_iff {u : UInt16} : isHigh u = true ↔ 0xD800 ≤ u.toNat ∧ u.toNat < 0xDC00 := by
  simp [isHigh, UInt16.le_iff_toNat_le, UInt16.lt_iff_toNat_lt]

theorem isLow_iff {u : UInt16} : isLow u = true ↔ 0xDC00 ≤ u.toNat ∧ u.toNat < 0xE000 := by
  simp [isLow, UInt16.le_iff_toNat_le, UInt16.lt_iff_toNat_lt]

theorem toNat_ofNat {n : Nat} (h : n.isValidChar) : (Char.ofNat n).toNat = n := by
  rw [Char.ofNat, dif_pos h]
  rfl

/-- An ASCII character is one code unit, of the same number. -/
theorem unit_eq_iff {u : UInt16} {c : Char} (hc : c.toNat < 128) :
    unit u = c ↔ u.toNat = c.toNat := by
  rw [← Char.toNat_inj]
  unfold unit
  split
  · rename_i h
    rw [Bool.or_eq_true, isHigh_iff, isLow_iff] at h
    rw [toNat_ofNat (by decide)]
    omega
  · rename_i h
    rw [Bool.or_eq_true, isHigh_iff, isLow_iff] at h
    have hlt := u.toNat_lt
    rw [toNat_ofNat (by simp only [Nat.isValidChar]; omega)]

/-- A surrogate pair is beyond the ASCII characters. -/
theorem pair_ne {u v : UInt16} {c : Char} (h : (isHigh u && isLow v) = true)
    (hc : c.toNat < 128) : pair u v ≠ c := by
  rw [Bool.and_eq_true, isHigh_iff, isLow_iff] at h
  rw [ne_eq, ← Char.toNat_inj]
  unfold pair
  rw [toNat_ofNat (by simp only [Nat.isValidChar]; omega)]
  omega

theorem unit_eq_nul {u : UInt16} : unit u = '\x00' ↔ u = 0 := by
  have h : unit u = '\x00' ↔ u.toNat = (0 : UInt16).toNat := unit_eq_iff (by decide)
  exact h.trans UInt16.toNat_inj

/-- U+0000 is no part of a surrogate pair. -/
theorem ne_zero_of_pair {u v : UInt16} (h : (isHigh u && isLow v) = true) : u ≠ 0 ∧ v ≠ 0 := by
  rw [Bool.and_eq_true] at h
  constructor
  · rintro rfl
    cases h.1
  · rintro rfl
    cases h.2

/-! ## Texts -/

theorem chars_eq_ascii {s : JsString} {cs : List Char} (hcs : ∀ c ∈ cs, c.toNat < 128) :
    s.chars = cs ↔ s.map UInt16.toNat = cs.map Char.toNat := by
  induction s using chars.induct generalizing cs with
  | case1 =>
    rw [List.map_nil, eq_comm (b := cs.map _), List.map_eq_nil_iff, chars, eq_comm]
  | case2 u =>
    cases cs with
    | nil => simp [chars]
    | cons c cs =>
      have hc := unit_eq_iff (u := u) (hcs c List.mem_cons_self)
      simp [chars, hc, eq_comm (a := ([] : List Char)), eq_comm (a := ([] : List Nat))]
  | case3 u v rest h ih =>
    cases cs with
    | nil => simp [chars, h]
    | cons c cs =>
      have hc := hcs c List.mem_cons_self
      have hpair := pair_ne h hc
      refine iff_of_false ?_ ?_
      · simp [chars, h, hpair]
      · rw [Bool.and_eq_true, isHigh_iff] at h
        intro heq
        have heq : u.toNat = c.toNat := (List.cons.inj heq).1
        omega
  | case4 u v rest h ih =>
    cases cs with
    | nil => simp [chars, h]
    | cons c cs =>
      have hc := unit_eq_iff (u := u) (hcs c List.mem_cons_self)
      have ih := ih fun c' hc' => hcs c' (List.mem_cons_of_mem c hc')
      simp [chars, h, hc, ih]

theorem chars_beforeNul (s : JsString) : s.beforeNul.chars = s.chars.takeWhile (· != '\x00') := by
  unfold beforeNul
  induction s using chars.induct with
  | case1 => rfl
  | case2 u =>
    by_cases hu : u = 0
    · subst hu
      rfl
    · have hunit : unit u ≠ '\x00' := fun h => hu (unit_eq_nul.mp h)
      simp [chars, hu, hunit]
  | case3 u v rest h ih =>
    obtain ⟨hu, hv⟩ := ne_zero_of_pair h
    have hpair : pair u v ≠ '\x00' := pair_ne h (by decide)
    simp [chars, h, hu, hv, hpair, ih]
  | case4 u v rest h ih =>
    by_cases hu : u = 0
    · subst hu
      simp [chars, h, unit_eq_nul.mpr rfl]
    · have hunit : unit u ≠ '\x00' := fun h => hu (unit_eq_nul.mp h)
      by_cases hv : v = 0
      · subst hv
        have ih : [] = (chars (0 :: rest)).takeWhile (· != '\x00') := ih
        simp [chars, h, hu, hunit, ← ih]
      · have hkeep : (v :: rest).takeWhile (· != 0) = v :: rest.takeWhile (· != 0) :=
          List.takeWhile_cons_of_pos (by simpa using hv)
        rw [hkeep] at ih
        simp [chars, h, hu, hv, hunit, ih]

theorem nul_mem_chars {s : JsString} : '\x00' ∈ s.chars ↔ 0 ∈ s := by
  induction s using chars.induct with
  | case1 => simp [chars]
  | case2 u => simp [chars, eq_comm (a := '\x00'), eq_comm (a := (0 : UInt16)), unit_eq_nul]
  | case3 u v rest h ih =>
    obtain ⟨hu, hv⟩ := ne_zero_of_pair h
    have hpair : pair u v ≠ '\x00' := pair_ne h (by decide)
    simp [chars, h, hu.symm, hv.symm, hpair.symm, ih]
  | case4 u v rest h ih =>
    rw [chars, if_neg h, List.mem_cons, List.mem_cons, ih, eq_comm, unit_eq_nul, eq_comm]

/-! ## Bytes -/

/-- **What the C-string constructor keeps** of a string is its text before the first U+0000. -/
theorem ofCString_utf8 (s : JsString) : ofCString s.utf8 = s.beforeNul.utf8 := by
  show (Utf8.encode s.chars).takeWhile (· != 0) = Utf8.encode s.beforeNul.chars
  rw [Utf8.takeWhile_encode, chars_beforeNul]

/-- All of its characters are ASCII. -/
def IsAscii (t : String) : Prop := t.toList.all (·.toNat < 128) = true

theorem IsAscii.lt {t : String} (ht : IsAscii t) {c : Char} (hc : c ∈ t.toList) : c.toNat < 128 :=
  of_decide_eq_true (List.all_eq_true.mp ht c hc)

theorem map_toNat_ascii {t : String} (ht : IsAscii t) :
    (ascii t).map UInt16.toNat = t.toList.map Char.toNat := by
  rw [ascii, List.map_map]
  refine List.map_congr_left ?_
  intro c hc
  exact UInt16.toNat_ofNat_of_lt (Nat.lt_trans (ht.lt hc) (by decide))

theorem utf8_eq_lit {s : JsString} {t : String} (ht : IsAscii t) :
    s.utf8 = lit t ↔ s = ascii t := by
  have hlit : lit t = Utf8.encode t.toList := Utf8.toUTF8_eq t
  have hchars : s.utf8 = lit t ↔ s.chars = t.toList := by
    rw [hlit]
    exact ⟨Utf8.encode_inj, fun h => congrArg Utf8.encode h⟩
  rw [hchars, chars_eq_ascii fun c hc => ht.lt hc, ← map_toNat_ascii ht]
  exact (List.map_injective_iff.mpr fun _ _ => UInt16.toNat_inj.mp).eq_iff

/-- A string is carried over whole exactly when it has no U+0000. -/
theorem ofCString_utf8_eq_self {s : JsString} : ofCString s.utf8 = s.utf8 ↔ 0 ∉ s := by
  have hbytes : ofCString s.utf8 = s.utf8 ↔ s.chars.takeWhile (· != '\x00') = s.chars := by
    rw [ofCString_utf8, utf8, utf8, chars_beforeNul]
    exact ⟨Utf8.encode_inj, fun h => congrArg Utf8.encode h⟩
  rw [hbytes, List.takeWhile_eq_self_iff, ← nul_mem_chars]
  constructor
  · intro h hnul
    exact absurd (h _ hnul) (by decide)
  · intro h c hc
    rw [bne_iff_ne]
    rintro rfl
    exact h hc

end JsString

end NetLink
