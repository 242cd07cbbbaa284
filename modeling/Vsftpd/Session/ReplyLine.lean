import Vsftpd.Session.Guarantees
import Vsftpd.Lib.Doubling
import Vsftpd.Decimal

/-!
# Reply lines on the wire

What `ftp_write_str_common` puts on the control connection.  The text is rewritten
twice before the status goes in front of it, so that the line cannot be ended early
and the text can be read back.
-/

namespace Vsftpd.Session

open Vsftpd.Lib Vsftpd.Lib.Doubling

variable {W : Type}

theorem strSplitText_singleton (s : Bytes) {c : UInt8} (hnull : c ≠ 0) :
    strSplitText s [c] = strSplitChar s c := by
  rw [strSplitText, strSplitChar, ministr_eq hnull]
  rfl

/-- Every round takes the text up to the next hit; `n` bounds their number. -/
theorem replaceTextLoop_double {c : UInt8} (hnull : c ≠ 0) (n : Nat) (s : Bytes)
    (h : s.length < n) :
    replaceTextLoop [c] [c, c] n s = double c s := by
  induction n generalizing s with
  | zero => exact absurd h (Nat.not_lt_zero _)
  | succ n ih =>
      unfold replaceTextLoop
      dsimp only
      rw [strSplitText_singleton s hnull]
      by_cases hc : c ∈ s
      · obtain ⟨pre, post, hs, hpre⟩ := List.eq_append_cons_of_mem hc
        rw [hs, List.length_append, List.length_cons] at h
        have hrest : (if post.isEmpty then [] else replaceTextLoop [c] [c, c] n post) =
            double c post := by
          cases post with
          | nil => rfl
          | cons d post => exact ih (d :: post) (by omega)
        rw [hs, strSplitChar_append hnull hpre, if_pos (by simp), hrest, double_append,
          double_of_not_mem hpre, double_cons_self]
        simp
      · rw [strSplitChar_of_not_mem hc, if_neg (Nat.lt_irrefl _), double_of_not_mem hc]
        simp

theorem strReplaceText_double {c : UInt8} (hnull : c ≠ 0) (s : Bytes) :
    strReplaceText s [c] [c, c] = double c s :=
  replaceTextLoop_double hnull (s.length + 1) s (Nat.lt_succ_self _)

theorem not_mem_strReplaceChar {old new : UInt8} (h : old ≠ new) (s : Bytes) :
    old ∉ strReplaceChar s old new := by
  intro hmem
  obtain ⟨c, -, hc⟩ := List.mem_map.mp hmem
  split_ifs at hc with heq
  · exact h hc.symm
  · exact heq hc

/-- A character can be replaced and put back when its replacement did not occur. -/
theorem strReplaceChar_back {old new : UInt8} {s : Bytes} (h : new ∉ s) :
    strReplaceChar (strReplaceChar s old new) new old = s := by
  unfold strReplaceChar
  rw [List.map_map, List.map_congr_left (g := id), List.map_id]
  intro c hc
  by_cases hold : c = old
  · simp [hold]
  · have hnew : c ≠ new := fun heq => h (heq ▸ hc)
    simp [hold, hnew]

theorem newline_eq_escape (c : UInt8) : (if c = 10 then (0 : UInt8) else c) = 255 ↔ c = 255 := by
  by_cases h : c = 10
  · rw [if_pos h, h]
    decide
  · rw [if_neg h]

theorem mangleText_eq (text : Bytes) : mangleText text = double 255 (strReplaceChar text 10 0) := by
  unfold mangleText
  rw [strReplaceText_double (by decide)]
  exact (double_map newline_eq_escape).symm

theorem newline_not_mem_mangleText (text : Bytes) : (10 : UInt8) ∉ mangleText text :=
  not_mem_strReplaceChar (by decide) _

end Vsftpd.Session
