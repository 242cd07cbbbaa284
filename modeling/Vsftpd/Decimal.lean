import Vsftpd.Convert
import Vsftpd.Lib.KeySort
import Vsftpd.Lib.Numerals
import Mathlib.Data.List.TakeWhile

/-!
# Decimal numerals

What `atoi` reads off a text of digits.
-/

namespace Vsftpd

open Vsftpd.Lib Vsftpd.Lib.Numerals

variable {s : Bytes} {c : UInt8}

theorem isdigit_iff : vsfSysutilIsdigit c = true ↔ 48 ≤ c.toNat ∧ c.toNat ≤ 57 := by
  simp [vsfSysutilIsdigit, UInt8.le_iff_toNat_le]

theorem isspace_iff :
    isspace c = true ↔ c.toNat = 32 ∨ 9 ≤ c.toNat ∧ c.toNat ≤ 13 := by
  unfold isspace
  rw [decide_eq_true_iff, ← UInt8.toNat_inj, UInt8.le_iff_toNat_le, UInt8.le_iff_toNat_le]
  rfl

theorem digitValue_eq_zero (h : vsfSysutilIsdigit c = true) : digitValue c = 0 ↔ c = 48 := by
  obtain ⟨hlow, hhigh⟩ := isdigit_iff.mp h
  rw [← UInt8.toNat_inj, digitValue]
  show c.toNat - 48 = 0 ↔ c.toNat = 48
  omega

theorem cString_digits (h : ∀ c ∈ s, vsfSysutilIsdigit c = true) : cString s = s := by
  unfold cString
  rw [List.takeWhile_eq_self_iff]
  intro c hc
  have hdigit := h c hc
  refine decide_eq_true fun hzero => ?_
  rw [hzero] at hdigit
  exact absurd hdigit (by decide)

/-- The number is held at the end of a `long`. -/
theorem strtolDigits_digits (h : ∀ c ∈ s, vsfSysutilIsdigit c = true) :
    strtolDigits false s = min (value 10 (s.map digitValue) : Int) (2 ^ 63 - 1) := by
  have hvalue : s.foldl (fun n c => n * 10 + digitValue c) 0 = value 10 (s.map digitValue) :=
    List.foldl_map.symm
  unfold strtolDigits
  rw [List.takeWhile_eq_self_iff.mpr h, hvalue]
  rfl

theorem atoi_digits (h : ∀ c ∈ s, vsfSysutilIsdigit c = true) :
    vsfSysutilAtoi s = toInt32 (min (value 10 (s.map digitValue)) (2 ^ 63 - 1)) := by
  rw [← strtolDigits_digits h]
  cases s with
  | nil => rfl
  | cons c rest =>
      have hdigit := isdigit_iff.mp (h c List.mem_cons_self)
      have hspace : ¬ isspace c = true := by
        rw [isspace_iff]
        omega
      unfold vsfSysutilAtoi
      rw [List.dropWhile_cons_of_neg hspace]
      split
      · next heq =>
          rw [(List.cons.inj heq).1] at hdigit
          exact absurd hdigit.1 (by decide)
      · next heq =>
          rw [(List.cons.inj heq).1] at hdigit
          exact absurd hdigit.1 (by decide)
      · rfl

theorem toInt32_of_lt {n : Int} (hlow : 0 ≤ n) (hhigh : n < 2 ^ 31) : toInt32 n = n := by
  unfold toInt32
  dsimp only
  split_ifs <;> omega

/-- A number of at most nine digits fits in an `int`. -/
theorem atoi_short (h : ∀ c ∈ s, vsfSysutilIsdigit c = true) (hlen : s.length ≤ 9) :
    vsfSysutilAtoi s = value 10 (s.map digitValue) := by
  have hdigits : ∀ d ∈ s.map digitValue, d < 10 := by
    intro d hd
    obtain ⟨c, hc, rfl⟩ := List.mem_map.mp hd
    have hrange := isdigit_iff.mp (h c hc)
    unfold digitValue
    omega
  have hsmall : value 10 (s.map digitValue) < 10 ^ 9 := by
    apply Nat.lt_of_lt_of_le (value_lt hdigits)
    apply Nat.pow_le_pow_right (by decide)
    rwa [List.length_map]
  rw [atoi_digits h, min_eq_left (by omega)]
  exact toInt32_of_lt (by omega) (by omega)

/-! ## What is printed -/

theorem toNat_of_mem_toDigits {n : Nat} {d : Char} (h : d ∈ Nat.toDigits 10 n) :
    48 ≤ d.toNat ∧ d.toNat ≤ 57 ∧ (UInt8.ofNat d.toNat).toNat = d.toNat := by
  have hdigit := Nat.isDigit_of_mem_toDigits (by decide) (by decide) h
  obtain ⟨hlow, hhigh⟩ := Char.isDigit_iff_toNat.mp hdigit
  have hsmall : d.toNat < UInt8.size := Nat.lt_of_le_of_lt hhigh (by decide)
  exact ⟨hlow, hhigh, UInt8.toNat_ofNat_of_lt' hsmall⟩

theorem isDigit_of_mem_ulongToStr {n : Nat} (h : c ∈ vsfSysutilUlongToStr n) :
    vsfSysutilIsdigit c = true := by
  obtain ⟨d, hd, rfl⟩ := List.mem_map.mp h
  obtain ⟨hlow, hhigh, hval⟩ := toNat_of_mem_toDigits hd
  rw [isdigit_iff, hval]
  exact ⟨hlow, hhigh⟩

theorem ulongToStr_ne_nil (n : Nat) : vsfSysutilUlongToStr n ≠ [] := by
  unfold vsfSysutilUlongToStr digitsText
  rw [ne_eq, List.map_eq_nil_iff]
  exact Nat.toDigits_ne_nil

theorem value_ulongToStr (n : Nat) : value 10 ((vsfSysutilUlongToStr n).map digitValue) = n := by
  have hdigits : (vsfSysutilUlongToStr n).map digitValue =
      (Nat.toDigits 10 n).map fun d => d.toNat - 48 := by
    unfold vsfSysutilUlongToStr digitsText
    rw [List.map_map]
    apply List.map_congr_left
    intro d hd
    show (UInt8.ofNat d.toNat).toNat - 48 = d.toNat - 48
    rw [(toNat_of_mem_toDigits hd).2.2]
  calc
    value 10 ((vsfSysutilUlongToStr n).map digitValue)
        = (Nat.toDigits 10 n).foldl (fun m d => m * 10 + (d.toNat - 48)) 0 := by
      rw [hdigits, value, valueFrom, List.foldl_map]
    _ = Nat.ofDigitChars 10 (Nat.toDigits 10 n) 0 := by
      rw [Nat.ofDigitChars_eq_foldl]
      simp only [Nat.mul_comm 10]
      rfl
    _ = n := Nat.ofDigitChars_ten_toDigits

/-! ## Padding -/

theorem compare_toNat (a b : UInt8) : compare a.toNat b.toNat = compare a b := by
  show compareOfLessAndEq a.toNat b.toNat = compareOfLessAndEq a b
  unfold compareOfLessAndEq
  simp only [UInt8.lt_iff_toNat_lt, UInt8.toNat_inj]

/-- Texts of digits of one length are ordered like their numbers. -/
theorem compare_digits {t : Bytes} (hs : ∀ c ∈ s, vsfSysutilIsdigit c = true)
    (ht : ∀ c ∈ t, vsfSysutilIsdigit c = true) (hlen : s.length = t.length) :
    compare s t = compare (value 10 (s.map digitValue)) (value 10 (t.map digitValue)) := by
  have hlt {u : Bytes} (hu : ∀ c ∈ u, vsfSysutilIsdigit c = true) :
      ∀ d ∈ u.map digitValue, d < 10 := by
    intro d hd
    obtain ⟨c, hc, rfl⟩ := List.mem_map.mp hd
    have hrange := isdigit_iff.mp (hu c hc)
    unfold digitValue
    omega
  rw [compare_value (by rw [List.length_map, List.length_map, hlen]) (hlt hs) (hlt ht)]
  symm
  apply compare_map
  intro c hc d hd
  have hc' := isdigit_iff.mp (hs c hc)
  have hd' := isdigit_iff.mp (ht d hd)
  rw [← compare_toNat]
  unfold digitValue
  simp only [Nat.compare_eq_ite_lt]
  congr 1
  · rw [eq_iff_iff]
    omega
  · congr 1
    rw [eq_iff_iff]
    omega

/-- The number with zeros before it, at least `w` digits. -/
def zeroPadded (w n : Nat) : Bytes :=
  List.replicate (w - (vsfSysutilUlongToStr n).length) 48 ++ vsfSysutilUlongToStr n

theorem length_zeroPadded {w n : Nat} (hw : 0 < w) (hn : n < 10 ^ w) :
    (zeroPadded w n).length = w := by
  have hlen : (vsfSysutilUlongToStr n).length ≤ w := by
    unfold vsfSysutilUlongToStr digitsText
    rw [List.length_map]
    exact (Nat.length_toDigits_le_iff (by decide) hw).mpr hn
  unfold zeroPadded
  rw [List.length_append, List.length_replicate]
  omega

theorem zeroPadded_ne_nil (w n : Nat) : zeroPadded w n ≠ [] := by
  intro hnil
  exact ulongToStr_ne_nil n (List.append_eq_nil_iff.mp hnil).2

theorem isDigit_of_mem_zeroPadded {w n : Nat} (h : c ∈ zeroPadded w n) :
    vsfSysutilIsdigit c = true := by
  rcases List.mem_append.mp h with h | h
  · rw [List.eq_of_mem_replicate h]
    decide
  · exact isDigit_of_mem_ulongToStr h

theorem value_zeroPadded (w n : Nat) : value 10 ((zeroPadded w n).map digitValue) = n := by
  unfold zeroPadded
  rw [List.map_append, List.map_replicate]
  exact (value_leading_zeros 10 _ _).trans (value_ulongToStr n)

theorem compare_zeroPadded {w n m : Nat} (hw : 0 < w) (hn : n < 10 ^ w) (hm : m < 10 ^ w) :
    compare (zeroPadded w n) (zeroPadded w m) = compare n m := by
  have hlen : (zeroPadded w n).length = (zeroPadded w m).length := by
    rw [length_zeroPadded hw hn, length_zeroPadded hw hm]
  rw [compare_digits (fun _ => isDigit_of_mem_zeroPadded) (fun _ => isDigit_of_mem_zeroPadded) hlen,
    value_zeroPadded, value_zeroPadded]

end Vsftpd
