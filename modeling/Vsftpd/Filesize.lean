import Vsftpd.Decimal
import Vsftpd.Lib.ExceptRules

/-!
# File sizes

`vsf_sysutil_a_to_filesize_t`, with a check at each step that its value is a `filesize_t`.
-/

namespace Vsftpd.Filesize

open Vsftpd.Lib Vsftpd.Lib.Numerals

/-- How the conversion may fail. -/
inductive Fault where
  | die (text : String)
  | overflow
  deriving DecidableEq, Repr

/-- A value of the type, which has 64 bits. -/
def filesizeT (n : Int) : Except Fault Int :=
  if -2 ^ 63 ≤ n ∧ n < 2 ^ 63 then .ok n else .error .overflow

/-- From the last character to the first. -/
def addDigits : Bytes → Int → Int → Except Fault Int
  | [], result, _ => .ok result
  | theChar :: rest, result, mult =>
    if vsfSysutilIsdigit theChar then do
      let val ← filesizeT (digitValue theChar * mult)
      let result ← filesizeT (result + val)
      let mult ← filesizeT (mult * 10)
      addDigits rest result mult
    else .ok 0

def aToFilesizeT (s : Bytes) : Except Fault Int := do
  let len ← (vsfSysutilStrlen s).mapError .die
  if len > 15 then .ok 0 else addDigits (cString s).reverse 0 1

/-- The number that a text of at most fifteen digits stands for, else 0. -/
def sizeValue (text : Bytes) : Nat :=
  if text.length ≤ 15 ∧ text.all vsfSysutilIsdigit = true then
    value 10 (text.map digitValue)
  else 0

section
variable {s text rest : Bytes} {c : UInt8} {r k : Nat} {n result mult : Int}

theorem filesizeT_natCast {m : Nat} (h : m < 2 ^ 63) : filesizeT (m : Int) = .ok (m : Int) :=
  if_pos ⟨by omega, by omega⟩

theorem filesizeT_eq_ok (h : filesizeT n = .ok result) : result = n := by
  unfold filesizeT at h
  split_ifs at h
  cases h
  rfl

/-- With `k` digits added, the result and the multiplier are below 10^15. -/
theorem addDigits_eq (hr : r < 10 ^ k) (hlen : k + rest.length ≤ 15) :
    addDigits rest r (10 ^ k : Nat) =
      .ok (if rest.all vsfSysutilIsdigit = true then
        (r + 10 ^ k * value 10 (rest.reverse.map digitValue) : Nat) else 0) := by
  induction rest generalizing r k with
  | nil =>
      rw [if_pos List.all_nil]
      rfl
  | cons c rest ih =>
      rw [addDigits]
      rw [List.length_cons] at hlen
      by_cases hc : vsfSysutilIsdigit c = true
      · have hdigit : digitValue c < 10 := by
          obtain ⟨hlow, hhigh⟩ := isdigit_iff.mp hc
          unfold digitValue
          omega
        have hsmall : 10 ^ (k + 1) ≤ 10 ^ 15 := Nat.pow_le_pow_right (by decide) (by omega)
        have hpow : 10 ^ (k + 1) = 10 ^ k * 10 := Nat.pow_succ 10 k
        have hval : digitValue c * 10 ^ k ≤ 9 * 10 ^ k := Nat.mul_le_mul_right _ (by omega)
        have hnext : r + digitValue c * 10 ^ k < 10 ^ (k + 1) := by omega
        rw [if_pos hc, ← Int.natCast_mul, filesizeT_natCast (by omega), ok_bind,
          ← Int.natCast_add, filesizeT_natCast (by omega), ok_bind]
        have hmult : ((10 ^ k : Nat) : Int) * 10 = (10 ^ (k + 1) : Nat) := by
          rw [hpow]
          rfl
        rw [hmult, filesizeT_natCast (by omega), ok_bind, ih hnext (by omega)]
        have hvalue : value 10 ((c :: rest).reverse.map digitValue) =
            value 10 (rest.reverse.map digitValue) * 10 + digitValue c := by
          rw [List.reverse_cons, List.map_append, List.map_singleton, value_concat]
        have hsum : r + digitValue c * 10 ^ k +
            10 ^ (k + 1) * value 10 (rest.reverse.map digitValue) =
              r + 10 ^ k * value 10 ((c :: rest).reverse.map digitValue) := by
          rw [hvalue, hpow]
          ring
        have hall : (c :: rest).all vsfSysutilIsdigit = rest.all vsfSysutilIsdigit := by
          rw [List.all_cons, hc, Bool.true_and]
        rw [hsum, hall]
      · have hnot : ¬ (c :: rest).all vsfSysutilIsdigit = true :=
          fun h => hc (List.all_eq_true.mp h c List.mem_cons_self)
        rw [if_neg hc, if_neg hnot]

theorem addDigits_text (h : text.length ≤ 15) :
    addDigits text.reverse 0 1 = .ok (sizeValue text : Int) := by
  have hadd : addDigits text.reverse (0 : Nat) (10 ^ 0 : Nat) = _ :=
    addDigits_eq Nat.one_pos (by rw [List.length_reverse]; omega)
  refine hadd.trans ?_
  unfold sizeValue
  simp only [h, true_and, List.all_reverse, List.reverse_reverse, Nat.zero_add, pow_zero,
    Nat.one_mul]
  split_ifs <;> rfl

theorem sizeValue_long (h : 15 < text.length) : sizeValue text = 0 :=
  if_neg fun hshort => absurd hshort.1 (Nat.not_le.mpr h)

/-- A string that may be measured. -/
theorem aToFilesizeT_eq (h : (cString s).length ≤ intMax / 8) :
    aToFilesizeT s = .ok (sizeValue (cString s) : Int) := by
  unfold aToFilesizeT
  rw [strlen_eq h, Except.mapError, ok_bind]
  by_cases hlong : 15 < (cString s).length
  · rw [if_pos hlong, sizeValue_long hlong]
    rfl
  · rw [if_neg hlong, addDigits_text (Nat.not_lt.mp hlong)]

theorem aToFilesizeT_long (h : intMax / 8 < (cString s).length) :
    aToFilesizeT s = .error (.die "string suspiciously long") := by
  unfold aToFilesizeT
  rw [strlen_long h, Except.mapError, error_bind]

/-! ## Without the checks -/

theorem filesizeLoop_eq (h : addDigits rest result mult = .ok n) :
    filesizeLoop rest result mult = n := by
  induction rest generalizing result mult with
  | nil =>
      cases h
      rfl
  | cons c rest ih =>
      rw [addDigits] at h
      rw [filesizeLoop]
      split_ifs at h ⊢ with hc
      · obtain ⟨val, hval, h⟩ := bind_eq_ok h
        obtain ⟨sum, hsum, h⟩ := bind_eq_ok h
        obtain ⟨prod, hprod, h⟩ := bind_eq_ok h
        obtain rfl := filesizeT_eq_ok hval
        obtain rfl := filesizeT_eq_ok hsum
        obtain rfl := filesizeT_eq_ok hprod
        exact ih h
      · cases h
        rfl

/-- Where there is no overflow the loop of unbounded numbers has the same value. -/
theorem vsfSysutilAToFilesizeT_eq (h : (cString s).length ≤ intMax / 8) :
    vsfSysutilAToFilesizeT s = .ok (sizeValue (cString s) : Int) := by
  unfold vsfSysutilAToFilesizeT
  rw [strlen_eq h, ok_bind]
  by_cases hlong : 15 < (cString s).length
  · rw [if_pos hlong, sizeValue_long hlong]
    rfl
  · rw [if_neg hlong, filesizeLoop_eq (addDigits_text (Nat.not_lt.mp hlong))]
    rfl

theorem vsfSysutilAToFilesizeT_long (h : intMax / 8 < (cString s).length) :
    vsfSysutilAToFilesizeT s = .error "string suspiciously long" := by
  unfold vsfSysutilAToFilesizeT
  rw [strlen_long h, error_bind]

/-! ## Printed and read again -/

theorem filesizeTToStr_natCast (m : Nat) :
    vsfSysutilFilesizeTToStr m = vsfSysutilUlongToStr m :=
  if_neg (by omega)

theorem length_print {m : Nat} (h : m < 10 ^ 15) :
    (vsfSysutilFilesizeTToStr m).length ≤ 15 := by
  rw [filesizeTToStr_natCast]
  unfold vsfSysutilUlongToStr digitsText
  rw [List.length_map]
  exact (Nat.length_toDigits_le_iff (by decide) (by decide)).mpr h

theorem sizeValue_print {m : Nat} (h : m < 10 ^ 15) :
    sizeValue (vsfSysutilFilesizeTToStr m) = m := by
  have hlen := length_print h
  rw [filesizeTToStr_natCast] at hlen ⊢
  have hdigits : (vsfSysutilUlongToStr m).all vsfSysutilIsdigit = true :=
    List.all_eq_true.mpr fun _ => isDigit_of_mem_ulongToStr
  unfold sizeValue
  rw [if_pos ⟨hlen, hdigits⟩, value_ulongToStr]

theorem cString_print (m : Nat) :
    cString (vsfSysutilFilesizeTToStr m) = vsfSysutilFilesizeTToStr m := by
  rw [filesizeTToStr_natCast]
  exact cString_digits fun _ => isDigit_of_mem_ulongToStr

/-- What is printed is read again. -/
theorem aToFilesizeT_print {m : Nat} (h : m < 10 ^ 15) :
    aToFilesizeT (vsfSysutilFilesizeTToStr m) = .ok (m : Int) := by
  have hlen : (cString (vsfSysutilFilesizeTToStr m)).length ≤ intMax / 8 := by
    rw [cString_print]
    exact Nat.le_trans (length_print h) (by decide)
  rw [aToFilesizeT_eq hlen, cString_print, sizeValue_print h]

end

end Vsftpd.Filesize
