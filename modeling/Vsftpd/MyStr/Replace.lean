import Vsftpd.MyStr.Split

/-!
# Replacing a text

`str_replace_text` splits what is left of the string again and again, with two static
strings for the sides of a split.  What it makes is the replacement in one pass from
the left.
-/

namespace Vsftpd.MyStr

open Vsftpd.Lib Vsftpd.Lib.TextSearch

/-! ## The function -/

/-- The string, and the two static strings. -/
structure Replaced where
  str : Mystr
  lhsChunk : Mystr
  rhsChunk : Mystr

/-- If this was a hit, the new text goes behind the string. -/
def appendOnHit (mem : Memory) (p lhs : Mystr) (lhsLen : Nat) (pTo : Bytes) : StrM Mystr :=
  if lhs.len < lhsLen then strAppendText mem p pTo else pure p

/-- The `do` loop, `none` when `n` rounds are not enough. -/
def replaceRounds (mem : Memory) (pFrom pTo : Bytes) :
    Nat → Mystr → Mystr → Mystr → StrM (Option Replaced)
  | 0, _, _, _ => pure none
  | n + 1, p, lhs, rhs => do
    let lhsLen := lhs.len
    let (lhs, rhs) ← strSplitText mem lhs rhs pFrom
    let p ← strAppendStr mem p lhs
    let p ← appendOnHit mem p lhs lhsLen pTo
    let lhs ← strCopy mem lhs rhs
    if lhs.len = 0 then pure (some ⟨p, lhs, rhs⟩)
    else replaceRounds mem pFrom pTo n p lhs rhs

/-- A round that is not the last takes a byte of the string at least. -/
def strReplaceText (mem : Memory) (p lhs rhs : Mystr) (pFrom pTo : Bytes) :
    StrM (Option Replaced) := do
  let lhs ← strCopy mem lhs p
  replaceRounds mem pFrom pTo (p.len + 1) (strFree p) lhs rhs

/-! ## On byte lists -/

variable {old new text other : Bytes} {n : Nat}

theorem not_occurs_nil (hold : old ≠ []) : ¬ Occurs old [] := by
  rintro ⟨pre, post, h⟩
  have hnil := (List.append_eq_nil_iff.mp (List.append_eq_nil_iff.mp h.symm).2).1
  exact hold hnil

/-- Enough rounds replace in one pass. -/
theorem replaceTextLoop_replaces (hold : old ≠ []) (hn : text.length < n) :
    Replaces old new text (replaceTextLoop old new n text) := by
  induction n generalizing text with
  | zero => exact absurd hn (Nat.not_lt_zero _)
  | succ n ih =>
      rw [replaceTextLoop]
      by_cases hocc : Occurs old text
      · cases hloc : locate old text with
        | none => exact absurd hocc (locate_none hloc)
        | some i =>
            obtain ⟨pre, post, hfirst, -⟩ := locate_some hloc
            have hlen := hfirst.length
            have hpos := List.length_pos_of_ne_nil hold
            rw [splitText_found hold hfirst]
            dsimp only
            rw [if_pos (by omega), List.append_assoc]
            apply Replaces.step hfirst
            cases post with
            | nil => exact Replaces.done (not_occurs_nil hold)
            | cons c post => exact ih (by omega)
      · rw [splitText_missing hold hocc]
        dsimp only
        rw [if_neg (Nat.lt_irrefl _), List.append_nil]
        show Replaces old new text (text ++ [])
        rw [List.append_nil]
        exact Replaces.done hocc

theorem strReplaceText_replaces (hold : old ≠ []) (text new : Bytes) :
    Replaces old new text (Vsftpd.strReplaceText text old new) :=
  replaceTextLoop_replaces hold (Nat.lt_succ_self _)

/-! ## On strings -/

variable {mem : Memory} {p lhs rhs : Mystr} {acc chunk pFrom pTo : Bytes} {size : Nat}

/-- The right side of a split is shorter than the text, when it is not empty. -/
theorem splitText_lengths (text pat : Bytes) :
    (Vsftpd.strSplitText text pat).1.length ≤ text.length ∧
      (Vsftpd.strSplitText text pat).2.length ≤ text.length - 1 := by
  show (splits text pat false).1.length ≤ _ ∧ (splits text pat false).2.length ≤ _
  cases hloc : locates text pat false with
  | none =>
      rw [splits_none hloc]
      exact ⟨Nat.le_refl _, Nat.zero_le _⟩
  | some i =>
      obtain ⟨hle, hpos⟩ := locates_le hloc
      rw [splits_some hloc, List.length_take, List.length_drop]
      constructor <;> omega

/-- What a round puts behind what has been replaced. -/
def roundText (old new chunk : Bytes) : Bytes :=
  let split := Vsftpd.strSplitText chunk old
  split.1 ++ if split.1.length < chunk.length then new else []

theorem replaceTextLoop_succ (old new chunk : Bytes) (n : Nat) :
    replaceTextLoop old new (n + 1) chunk = roundText old new chunk ++
      if (Vsftpd.strSplitText chunk old).2.isEmpty then []
      else replaceTextLoop old new n (Vsftpd.strSplitText chunk old).2 := rfl

/-- Enough rounds put what they replace behind what has been replaced. -/
theorem replaceRounds_yields (hp : Holds p acc) (hlhs : Holds lhs chunk) (hrhs : Holds rhs other)
    (hn : chunk.length < n) (hfrom : (cString pFrom).length ≤ size)
    (hchunk : chunk.length ≤ size)
    (hsize : (acc ++ replaceTextLoop (cString pFrom) (cString pTo) n chunk).length ≤ size) :
    Yields (Exhausts mem size)
      (fun r => ∃ done, r = some done ∧
        Holds done.str (acc ++ replaceTextLoop (cString pFrom) (cString pTo) n chunk))
      (replaceRounds mem pFrom pTo n p lhs rhs) := by
  induction n generalizing p lhs rhs acc chunk other with
  | zero => exact absurd hn (Nat.not_lt_zero _)
  | succ n ih =>
      obtain ⟨hleft, hright⟩ := splitText_lengths chunk (cString pFrom)
      rw [replaceTextLoop_succ, ← List.append_assoc] at hsize ⊢
      have hround : (acc ++ roundText (cString pFrom) (cString pTo) chunk).length ≤ size := by
        rw [List.length_append] at hsize
        omega
      have hroundLen := hround
      rw [roundText, ← List.append_assoc, List.length_append, List.length_append] at hroundLen
      unfold replaceRounds
      refine Yields.bind ((strSplitTextCommon_yields hlhs hrhs).mono
        (fun f hf => hf.mono (by omega)) fun _ hr => hr) ?_
      rintro ⟨lhs', rhs'⟩ ⟨hlhs', hrhs'⟩
      change Holds lhs' (Vsftpd.strSplitText chunk (cString pFrom)).1 at hlhs'
      change Holds rhs' (Vsftpd.strSplitText chunk (cString pFrom)).2 at hrhs'
      dsimp only
      refine Yields.bind ((strAppendStr_yields hp hlhs').mono
        (fun f hf => hf.mono (by omega)) fun _ hr => hr) fun p' hp' => ?_
      have happend : Yields (Exhausts mem size)
          (Holds · (acc ++ roundText (cString pFrom) (cString pTo) chunk))
          (appendOnHit mem p' lhs' lhs.len pTo) := by
        rw [appendOnHit, hlhs'.len, hlhs.len, roundText, ← List.append_assoc]
        apply Yields.ite
        · intro hhit
          rw [if_pos hhit] at hroundLen ⊢
          refine (strAppendText_yields hp').mono (fun f hf => hf.mono ?_) fun _ hr => hr
          rw [List.length_append]
          exact hroundLen
        · intro hmiss
          rw [if_neg hmiss, List.append_nil]
          exact Yields.pure hp'
      refine Yields.bind happend fun p'' hp'' => ?_
      refine Yields.bind ((strCopy_yields hlhs' hrhs').mono
        (fun f hf => hf.mono (by omega)) fun _ hr => hr) fun lhs'' hlhs'' => ?_
      rw [hlhs''.len]
      apply Yields.ite
      · intro hend
        have hnil := List.length_eq_zero_iff.mp hend
        rw [hnil]
        show Yields _ _ (pure (some (Replaced.mk p'' lhs'' rhs')))
        apply Yields.pure
        refine ⟨_, rfl, ?_⟩
        simp only [List.isEmpty_nil, if_true, List.append_nil]
        exact hp''
      · intro hmore
        have hne : ¬ (Vsftpd.strSplitText chunk (cString pFrom)).2.isEmpty = true := by
          intro hempty
          exact hmore (List.length_eq_zero_iff.mpr (List.isEmpty_iff.mp hempty))
        rw [if_neg hne] at hsize ⊢
        exact ih hp'' hlhs'' hrhs' (by omega) (by omega) hsize

/-- The texts that the function handles, and the one that it makes. -/
def replaceSize (text old new : Bytes) : Nat :=
  max (max text.length old.length) (Vsftpd.strReplaceText text old new).length

/-- Whatever the static strings hold, the string is left with the text in which each
occurrence that a scan from the left meets is replaced. -/
theorem strReplaceText_holds (mem : Memory) {left right : Bytes} (hp : Holds p text)
    (hlhs : Holds lhs left) (hrhs : Holds rhs right) (hfrom : cString pFrom ≠ []) :
    ∃ out, Replaces (cString pFrom) (cString pTo) text out ∧
      Yields (Exhausts mem (replaceSize text (cString pFrom) (cString pTo)))
        (fun r => ∃ done, r = some done ∧ Holds done.str out)
        (strReplaceText mem p lhs rhs pFrom pTo) := by
  refine ⟨_, strReplaceText_replaces hfrom text (cString pTo), ?_⟩
  unfold strReplaceText
  have hsizes : (cString pFrom).length ≤ replaceSize text (cString pFrom) (cString pTo) ∧
      text.length ≤ replaceSize text (cString pFrom) (cString pTo) ∧
      (Vsftpd.strReplaceText text (cString pFrom) (cString pTo)).length ≤
        replaceSize text (cString pFrom) (cString pTo) := by
    unfold replaceSize
    omega
  obtain ⟨hold, htext, hout⟩ := hsizes
  refine Yields.bind ((strCopy_yields hlhs hp).mono (fun f hf => hf.mono htext)
    fun _ hr => hr) fun lhs' hlhs' => ?_
  rw [hp.len]
  have hnew : Holds ⟨none, 0, 0⟩ [] := .null
  exact replaceRounds_yields hnew hlhs' hrhs (Nat.lt_succ_self _) hold htext hout

/-- The string `a"b`, in a buffer of the least size. -/
def quoted : Mystr := ⟨some (bytes "a\"b" ++ [0, 0]), (bytes "a\"b").length, 4⟩

theorem quoted_holds : Holds quoted (bytes "a\"b") :=
  .block ⟨[0], rfl⟩ (by decide) (by decide) (by decide)

/-- A text that contains what it replaces. -/
theorem strReplaceText_quoted :
    ∃ out, Replaces (cString (bytes "\"")) (cString (bytes "\"\"")) (bytes "a\"b") out ∧
      Yields (Exhausts (fun _ => some fun _ => 0)
          (replaceSize (bytes "a\"b") (cString (bytes "\"")) (cString (bytes "\"\""))))
        (fun r => ∃ done, r = some done ∧ Holds done.str out)
        (strReplaceText (fun _ => some fun _ => 0) quoted {} {} (bytes "\"") (bytes "\"\"")) :=
  strReplaceText_holds (fun _ => some fun _ => 0) quoted_holds .null .null (by decide)

end Vsftpd.MyStr
