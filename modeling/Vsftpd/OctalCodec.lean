import Vsftpd.Convert
import Vsftpd.Lib.Numerals
import Mathlib.Data.List.TakeWhile

/-!
# The octal codec

What `vsf_sysutil_octal_to_uint` makes of a text, next to the octal number that the
text begins with.  The loop moves one pointer and reads another: every turn sees the
first character again.
-/

namespace Vsftpd.OctalCodec

open Vsftpd.Lib Vsftpd.Lib.Numerals

def isOctalDigit (c : UInt8) : Bool := 48 ≤ c ∧ c ≤ 55

/-- The longest prefix of octal digits. -/
def octalDigits (s : Bytes) : List Nat := (s.takeWhile isOctalDigit).map digitValue

def octalValue (s : Bytes) : Nat := value 8 (octalDigits s)

/-- The first octal digit, 0 when the text begins with none. -/
def firstDigit (s : Bytes) : Nat := (octalDigits s).headD 0

/-- Below place `k`, and at place `k` modulo `c`, the octal prefix has the digits of a
number that repeats the first digit once for every character. -/
def RepeatsFirst (s : Bytes) (k c : Nat) : Prop :=
  (∀ i < k, place (octalDigits s) i = if i < (cString s).length then firstDigit s else 0) ∧
    place (octalDigits s) k % c = (if k < (cString s).length then firstDigit s else 0) % c

instance (s : Bytes) (k c : Nat) : Decidable (RepeatsFirst s k c) :=
  inferInstanceAs (Decidable (_ ∧ _))

variable {s rest : Bytes} {c digit : UInt8}

/-! ## Digits -/

theorem isOctalDigit_iff : isOctalDigit c = true ↔ 48 ≤ c.toNat ∧ c.toNat ≤ 55 := by
  simp [isOctalDigit, UInt8.le_iff_toNat_le]

theorem digitValue_lt (h : isOctalDigit c = true) : digitValue c < 8 := by
  have hrange := isOctalDigit_iff.mp h
  unfold digitValue
  omega

/-- The test that ends the loop. -/
theorem not_octal_iff :
    (¬ vsfSysutilIsdigit c = true ∨ c > 55) ↔ isOctalDigit c = false := by
  rw [← Bool.not_eq_true, isOctalDigit_iff, gt_iff_lt, UInt8.lt_iff_toNat_lt]
  simp only [vsfSysutilIsdigit, decide_eq_true_eq, UInt8.le_iff_toNat_le]
  show ¬ (48 ≤ c.toNat ∧ c.toNat ≤ 57) ∨ 55 < c.toNat ↔ ¬ (48 ≤ c.toNat ∧ c.toNat ≤ 55)
  omega

theorem octalDigits_lt (s : Bytes) : ∀ d ∈ octalDigits s, d < 8 := by
  intro d hd
  obtain ⟨c, hc, rfl⟩ := List.mem_map.mp hd
  exact digitValue_lt (List.mem_takeWhile_imp hc)

theorem octalDigits_cons (h : isOctalDigit c = true) :
    octalDigits (c :: s) = digitValue c :: octalDigits s := by
  unfold octalDigits
  rw [List.takeWhile_cons_of_pos h, List.map_cons]

theorem octalDigits_cons_of_not (h : isOctalDigit c = false) : octalDigits (c :: s) = [] := by
  unfold octalDigits
  rw [List.takeWhile_cons_of_neg (by rw [h]; exact Bool.false_ne_true)]
  rfl

theorem firstDigit_lt (s : Bytes) : firstDigit s < 8 := by
  unfold firstDigit
  cases h : octalDigits s with
  | nil => exact Nat.zero_lt_succ 7
  | cons d ds => exact octalDigits_lt s d (by rw [h]; simp)

/-! ## The loop -/

theorem octalLoop_run (hdigit : isOctalDigit digit = true) (hzero : digit ≠ 48) (rest : Bytes)
    (seen : Bool) (n : Nat) :
    octalLoop digit rest seen (n % 2 ^ 32) =
      valueFrom 8 n (List.replicate rest.length (digitValue digit)) % 2 ^ 32 := by
  induction rest generalizing seen n with
  | nil => rfl
  | cons c rest ih =>
      have hstep : (n % 2 ^ 32 * 8 + digitValue digit) % 2 ^ 32 =
          (n * 8 + digitValue digit) % 2 ^ 32 := by omega
      have hgoes : ¬ (¬ vsfSysutilIsdigit digit = true ∨ digit > 55) := by
        rw [not_octal_iff, hdigit]
        exact Bool.noConfusion
      have hseen : (seen || decide (digit ≠ 48)) = true := by
        rw [decide_eq_true hzero, Bool.or_true]
      unfold octalLoop
      rw [if_neg hgoes]
      dsimp only
      rw [hseen, if_pos rfl, hstep, ih, List.length_cons, List.replicate_succ, valueFrom_cons]

theorem octalLoop_zeros (rest : Bytes) (n : Nat) : octalLoop 48 rest false n = n := by
  induction rest with
  | nil => rfl
  | cons c rest ih => exact ih

theorem octalLoop_stop (hdigit : isOctalDigit digit = false) (rest : Bytes) (seen : Bool)
    (n : Nat) : octalLoop digit rest seen n = n := by
  cases rest with
  | nil => rfl
  | cons c rest =>
      unfold octalLoop
      rw [if_pos (not_octal_iff.mpr hdigit)]

theorem cString_cons (h : c ≠ 0) : cString (c :: s) = c :: cString s := by
  unfold cString
  exact List.takeWhile_cons_of_pos (decide_eq_true h)

theorem firstDigit_cons (h : isOctalDigit c = true) : firstDigit (c :: s) = digitValue c := by
  rw [firstDigit, octalDigits_cons h]
  rfl

theorem firstDigit_cons_of_not (h : isOctalDigit c = false) : firstDigit (c :: s) = 0 := by
  rw [firstDigit, octalDigits_cons_of_not h]
  rfl

/-- Every turn reads the first character. -/
theorem octalToUint_eq (hlen : (cString s).length ≤ intMax / 8) :
    vsfSysutilOctalToUint s =
      .ok (value 8 (List.replicate (cString s).length (firstDigit s)) % 2 ^ 32) := by
  unfold vsfSysutilOctalToUint
  rw [strlen_eq hlen, ok_bind]
  apply congrArg Except.ok
  cases s with
  | nil => rfl
  | cons digit s =>
      by_cases hend : digit = 0
      · rw [hend]
        rfl
      rw [cString_cons hend]
      dsimp only
      rcases Bool.eq_false_or_eq_true (isOctalDigit digit) with hdigit | hdigit
      · rw [firstDigit_cons hdigit]
        by_cases hzero : digit = 48
        · rw [hzero, octalLoop_zeros, show digitValue 48 = 0 from rfl, value_replicate_zero,
            Nat.zero_mod]
        · exact octalLoop_run hdigit hzero (digit :: cString s) false 0
      · rw [octalLoop_stop hdigit, firstDigit_cons_of_not hdigit, value_replicate_zero,
          Nat.zero_mod]

theorem octalToUint_long (hlen : intMax / 8 < (cString s).length) :
    vsfSysutilOctalToUint s = .error "string suspiciously long" := by
  unfold vsfSysutilOctalToUint
  rw [strlen_long hlen, error_bind]

/-- The leading zero of every octal value but 0 in the configuration. -/
theorem octalToUint_zero (hlen : (cString (48 :: s)).length ≤ intMax / 8) :
    vsfSysutilOctalToUint (48 :: s) = .ok 0 := by
  rw [octalToUint_eq hlen, firstDigit_cons (by decide), show digitValue 48 = 0 from rfl,
    value_replicate_zero, Nat.zero_mod]

theorem repeated_agrees_iff (s : Bytes) (k c : Nat) (hc : c ∣ 8) :
    value 8 (List.replicate (cString s).length (firstDigit s)) % (8 ^ k * c) =
      octalValue s % (8 ^ k * c) ↔ RepeatsFirst s k c := by
  have hrepeated : ∀ d ∈ List.replicate (cString s).length (firstDigit s), d < 8 := by
    intro d hd
    rw [List.eq_of_mem_replicate hd]
    exact firstDigit_lt s
  rw [octalValue, value_mod_eq_iff hrepeated (octalDigits_lt s) k c hc, place_replicate,
    eq_comm (b := place (octalDigits s) k % c)]
  refine and_congr_left fun _ => forall_congr' fun i => imp_congr_right fun _ => ?_
  rw [place_replicate, eq_comm]

/-- What a text of a length that is taken is read as. -/
theorem octalToUint_ok_iff {f : Nat → Nat} {n : Nat} :
    (vsfSysutilOctalToUint s).map f = .ok n ↔ (cString s).length ≤ intMax / 8 ∧
      f (value 8 (List.replicate (cString s).length (firstDigit s)) % 2 ^ 32) = n := by
  by_cases hlen : (cString s).length ≤ intMax / 8
  · rw [octalToUint_eq hlen, and_iff_right hlen, Except.map, Except.ok.injEq]
  · rw [octalToUint_long (Nat.lt_of_not_le hlen)]
    exact iff_of_false (fun h => by cases h) fun h => hlen h.1

theorem octal_codec_iff (s : Bytes) (n : Nat) :
    (vsfSysutilOctalToUint s = .ok (octalValue s % 2 ^ 32) ↔
        (cString s).length ≤ intMax / 8 ∧ RepeatsFirst s 10 4) ∧
      ((vsfSysutilOctalToUint s).map (· % 0o1000) = .ok (octalValue s % 0o1000) ↔
        (cString s).length ≤ intMax / 8 ∧ RepeatsFirst s 3 1) ∧
      (vsfSysutilOctalToUint (vsfSysutilUintToOctal n) = .ok n ↔ n = 0) := by
  refine ⟨?_, ?_, ?_⟩
  · have hread := octalToUint_ok_iff (s := s) (f := id) (n := octalValue s % 2 ^ 32)
    rw [Except.map_id] at hread
    exact hread.trans (and_congr_right fun _ => repeated_agrees_iff s 10 4 (by decide))
  · rw [octalToUint_ok_iff, Nat.mod_mod_of_dvd _ (by decide)]
    exact and_congr_right fun _ => repeated_agrees_iff s 3 1 (by decide)
  · by_cases hn : n = 0
    · rw [hn]
      exact iff_of_true (by decide +kernel) rfl
    · refine iff_of_false (fun h => hn ?_) hn
      unfold vsfSysutilUintToOctal at h
      rw [if_neg hn] at h
      have hread := octalToUint_ok_iff (s := 48 :: digitsText 8 n) (f := id) (n := n)
      rw [Except.map_id] at hread
      have hvalue := (hread.mp h).2
      rw [firstDigit_cons (by decide), show digitValue 48 = 0 from rfl, value_replicate_zero,
        Nat.zero_mod] at hvalue
      exact hvalue.symm

theorem octal_codec_misreads :
    vsfSysutilOctalToUint (bytes "022") = .ok 0 ∧ octalValue (bytes "022") = 0o22 ∧
      vsfSysutilOctalToUint (bytes "644") = .ok 0o666 ∧
      vsfSysutilOctalToUint (vsfSysutilUintToOctal 18) ≠ .ok 18 := by
  decide +kernel

end Vsftpd.OctalCodec
