import Vsftpd.MyStr.Holds

/-!
# Searching and splitting a string

The two loops find what the searches of a byte list find, and a split leaves what is
before the text that was found and what is behind it.
-/

namespace Vsftpd.MyStr

open Vsftpd.Lib Vsftpd.Lib.TextSearch

variable {mem : Memory} {p q : Mystr} {text other pat : Bytes} {F : Fault → Prop}

/-! ## The loops -/

/-- Upwards over `n` places, when the text is not before `i`. -/
theorem locateUp_yields (h : Holds p text) {i n : Nat}
    (hend : i + n + pat.length = text.length + 1)
    (hbefore : ∀ j, j < i → (text.drop j).take pat.length ≠ pat) :
    Yields F (· = locate pat text) (locateUp p pat i n) := by
  induction n generalizing i with
  | zero =>
      apply Yields.pure
      symm
      apply locate_eq_none
      intro j hj
      exact hbefore j (by omega)
  | succ n ih =>
      rw [locateUp]
      refine Yields.bind (slice_yields h (by omega)) ?_
      rintro _ rfl
      apply Yields.ite
      · intro hat
        apply Yields.pure
        exact (locate_eq_some (by omega) hat hbefore).symm
      · intro hnot
        refine ih (by omega) fun j hj => ?_
        rcases Nat.lt_succ_iff_lt_or_eq.mp hj with hlt | rfl
        · exact hbefore j hlt
        · exact hnot

/-- Downwards from `i`, when the text is not behind it. -/
theorem locateDown_yields (h : Holds p text) {i : Nat} (hend : i + pat.length ≤ text.length)
    (hbehind : ∀ j, i < j → j + pat.length ≤ text.length →
      (text.drop j).take pat.length ≠ pat) :
    Yields F (· = locateLast pat text) (locateDown p pat i) := by
  induction i with
  | zero =>
      rw [locateDown]
      refine Yields.bind (slice_yields h (by omega)) ?_
      rintro _ rfl
      apply Yields.ite
      · intro hat
        apply Yields.pure
        exact (locateLast_eq_some (by omega) hat hbehind).symm
      · intro hnot
        apply Yields.pure
        symm
        apply locateLast_eq_none
        intro j hj
        rcases Nat.eq_zero_or_pos j with rfl | hpos
        · exact hnot
        · exact hbehind j hpos hj
  | succ i ih =>
      rw [locateDown]
      refine Yields.bind (slice_yields h hend) ?_
      rintro _ rfl
      apply Yields.ite
      · intro hat
        apply Yields.pure
        exact (locateLast_eq_some hend hat hbehind).symm
      · intro hnot
        refine ih (by omega) fun j hj hroom => ?_
        rcases Nat.lt_or_eq_of_le hj with hlt | rfl
        · exact hbehind j hlt hroom
        · exact hnot

/-! ## The searches -/

/-- The search of a byte list. -/
def locates (text pat : Bytes) (isReverse : Bool) : Option Nat :=
  if isReverse then Vsftpd.strLocateTextReverse text pat else Vsftpd.strLocateText text pat

theorem not_at_of_longer {j : Nat} (hlong : text.length < pat.length) :
    (text.drop j).take pat.length ≠ pat := by
  intro heq
  have hlen := congrArg List.length heq
  rw [List.length_take, List.length_drop] at hlen
  omega

theorem strLocateText_yields (h : Holds p text) {s : Bytes} :
    Yields (Exhausts mem (cString s).length) (· = Vsftpd.strLocateText text (cString s))
      (strLocateText p s) := by
  unfold strLocateText Vsftpd.strLocateText
  refine Yields.bind vsfSysutilStrlen_yields ?_
  rintro _ rfl
  rw [h.len]
  cases hs : cString s with
  | nil => exact Yields.pure rfl
  | cons c s' =>
      rw [← hs]
      have hne : (cString s).isEmpty = false := by rw [hs]; rfl
      have hlen : (cString s).length ≠ 0 := by rw [hs]; simp
      rw [hne, if_neg Bool.false_ne_true]
      apply Yields.ite
      · intro hlong
        apply Yields.pure
        symm
        exact locate_eq_none fun j _ => not_at_of_longer (by omega)
      · intro hfits
        refine locateUp_yields h (by omega) fun j hj => ?_
        exact absurd hj (Nat.not_lt_zero j)

theorem strLocateTextReverse_yields (h : Holds p text) {s : Bytes} :
    Yields (Exhausts mem (cString s).length) (· = Vsftpd.strLocateTextReverse text (cString s))
      (strLocateTextReverse p s) := by
  unfold strLocateTextReverse Vsftpd.strLocateTextReverse
  refine Yields.bind vsfSysutilStrlen_yields ?_
  rintro _ rfl
  rw [h.len]
  cases hs : cString s with
  | nil => exact Yields.pure rfl
  | cons c s' =>
      rw [← hs]
      have hne : (cString s).isEmpty = false := by rw [hs]; rfl
      have hlen : (cString s).length ≠ 0 := by rw [hs]; simp
      rw [hne, if_neg Bool.false_ne_true]
      apply Yields.ite
      · intro hlong
        apply Yields.pure
        symm
        exact locateLast_eq_none fun j _ => not_at_of_longer (by omega)
      · intro hfits
        exact locateDown_yields h (by omega) fun j hj hroom => absurd hroom (by omega)

theorem locateText_yields (h : Holds p text) {s : Bytes} {isReverse : Bool} :
    Yields (Exhausts mem (cString s).length) (· = locates text (cString s) isReverse)
      (locateText p s isReverse) := by
  unfold locateText locates
  cases isReverse with
  | true => exact strLocateTextReverse_yields h
  | false => exact strLocateText_yields h

/-- What is found lies within the text. -/
theorem locates_le {isReverse : Bool} {i : Nat} (h : locates text pat isReverse = some i) :
    i + pat.length ≤ text.length ∧ 0 < pat.length := by
  unfold locates at h
  cases hpat : pat with
  | nil =>
      rw [hpat] at h
      cases isReverse <;> exact absurd h (by simp [strLocateText_nil, Vsftpd.strLocateTextReverse])
  | cons c pat' =>
      rw [← hpat]
      have hne : pat.isEmpty = false := by rw [hpat]; rfl
      have hpos : 0 < pat.length := by rw [hpat]; exact Nat.succ_pos _
      refine ⟨?_, hpos⟩
      cases isReverse with
      | true =>
          rw [if_pos rfl, Vsftpd.strLocateTextReverse, hne, if_neg Bool.false_ne_true] at h
          exact locateLast_le h
      | false =>
          rw [if_neg Bool.false_ne_true, Vsftpd.strLocateText, hne,
            if_neg Bool.false_ne_true] at h
          exact locate_le h

/-! ## Splitting -/

/-- The two sides of what is found. -/
def splits (text pat : Bytes) (isReverse : Bool) : Bytes × Bytes :=
  if isReverse then Vsftpd.strSplitTextReverse text pat else Vsftpd.strSplitText text pat

theorem splits_none {isReverse : Bool} (h : locates text pat isReverse = none) :
    splits text pat isReverse = (text, []) := by
  unfold locates at h
  unfold splits
  cases isReverse with
  | true =>
      show Vsftpd.strSplitTextReverse text pat = _
      rw [Vsftpd.strSplitTextReverse, show Vsftpd.strLocateTextReverse text pat = none from h]
  | false =>
      show Vsftpd.strSplitText text pat = _
      rw [Vsftpd.strSplitText, show Vsftpd.strLocateText text pat = none from h]

theorem splits_some {isReverse : Bool} {i : Nat} (h : locates text pat isReverse = some i) :
    splits text pat isReverse = (text.take i, text.drop (i + pat.length)) := by
  unfold locates at h
  unfold splits
  cases isReverse with
  | true =>
      show Vsftpd.strSplitTextReverse text pat = _
      rw [Vsftpd.strSplitTextReverse, show Vsftpd.strLocateTextReverse text pat = some i from h]
      rfl
  | false =>
      show Vsftpd.strSplitText text pat = _
      rw [Vsftpd.strSplitText, show Vsftpd.strLocateText text pat = some i from h]
      rfl

theorem strSplitTextCommon_yields (h : Holds p text) (hq : Holds q other) {s : Bytes}
    {isReverse : Bool} :
    Yields (Exhausts mem (max text.length (cString s).length))
      (fun r => Holds r.1 (splits text (cString s) isReverse).1 ∧
        Holds r.2 (splits text (cString s) isReverse).2)
      (strSplitTextCommon mem p q s isReverse) := by
  unfold strSplitTextCommon
  refine Yields.bind (vsfSysutilStrlen_yields.mono (fun f hf => hf.mono (by omega))
    fun _ ht => ht) ?_
  rintro _ rfl
  refine Yields.bind ((locateText_yields h).mono (fun f hf => hf.mono (by omega))
    fun _ ht => ht) ?_
  rintro _ rfl
  cases hloc : locates text (cString s) isReverse with
  | none =>
      rw [splits_none hloc]
      refine Yields.bind ((strEmpty_yields hq).mono (fun f hf => hf.mono (Nat.zero_le _))
        fun _ hr => hr) fun r hr => ?_
      exact Yields.pure ⟨h, hr⟩
  | some i =>
      obtain ⟨hle, hpos⟩ := locates_le hloc
      have hlt := h.length_lt
      have hsum : u32 (i + (cString s).length) = i + (cString s).length := by
        unfold u32 intMax at *
        omega
      rw [splits_some hloc]
      dsimp only
      rw [h.len, hsum, if_neg (by omega)]
      have htail : (text.drop (i + (cString s).length)).take
          (text.length - i - (cString s).length) = text.drop (i + (cString s).length) := by
        apply List.take_of_length_le
        rw [List.length_drop]
        omega
      refine Yields.bind (slice_yields h (by omega)) ?_
      rintro _ rfl
      rw [htail]
      refine Yields.bind ((privateStrAllocMemchunk_yields hq).mono (fun f hf => hf.mono ?_)
        fun _ hr => hr) fun rhs hrhs => ?_
      · rw [List.length_drop]
        omega
      · have hbuf : p.pBuf ≠ none := by
          apply h.pBuf_ne_none
          rintro rfl
          rw [List.length_nil] at hle
          omega
        refine Yields.bind (strTrunc_yields h hbuf (by omega)) fun lhs hlhs => ?_
        exact Yields.pure ⟨hlhs, hrhs⟩

end Vsftpd.MyStr
