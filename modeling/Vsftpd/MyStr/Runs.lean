import Vsftpd.MyStr.Split
import Mathlib.Logic.Function.Basic

/-!
# Runs of the string library

A sequence of calls on any number of strings, beside the same calls on lists of bytes.
Only `str_reserve()`, which writes a zero behind the room that it was asked for, and
`str_trunc()`, which needs a buffer, ask for more than arguments in range.
-/

namespace Vsftpd.MyStr

open Vsftpd.Lib

variable {V : Type} [DecidableEq V]

/-! ## Calls -/

/-- The two strings of a call are different objects: a function may write to one while
it reads from the other. -/
structure TwoStrings (V : Type) where
  first : V
  second : V
  ne : first ≠ second

inductive Op (V : Type) where
  | allocText (v : V) (text : Bytes)
  | copy (destSrc : TwoStrings V)
  | appendStr (strOther : TwoStrings V)
  | appendText (v : V) (text : Bytes)
  | appendChar (v : V) (c : UInt8)
  | free (v : V)
  | empty (v : V)
  | trunc (v : V) (truncLen : UInt32)
  | reserve (v : V) (resLen : UInt32)
  | left (strOut : TwoStrings V) (chars : UInt32)
  | right (strOut : TwoStrings V) (chars : UInt32)
  | midToEnd (strOut : TwoStrings V) (indexx : UInt32)
  | splitText (srcRhs : TwoStrings V) (text : Bytes)
  | splitTextReverse (srcRhs : TwoStrings V) (text : Bytes)
  | splitChar (srcRhs : TwoStrings V) (c : UInt8)
  | splitCharReverse (srcRhs : TwoStrings V) (c : UInt8)
  | replaceChar (v : V) (old new : UInt8)
  | upper (v : V)
  | rpad (v : V) (minWidth : UInt32)
  | lpad (v : V) (minWidth : UInt32)

/-- The strings of a program and the static buffer of `str_lpad()`, all of them
`INIT_MYSTR` at first. -/
structure Strings (V : Type) where
  str : V → Mystr := fun _ => {}
  tmp : Mystr := {}

def Strings.set (s : Strings V) (v : V) (p : Mystr) : Strings V :=
  { s with str := Function.update s.str v p }

/-- A call that changes one string. -/
def Strings.change (s : Strings V) (v : V) (call : StrM Mystr) : StrM (Strings V) := do
  let p ← call
  pure (s.set v p)

/-- A call that changes two. -/
def Strings.changeBoth (s : Strings V) (vs : TwoStrings V) (call : StrM (Mystr × Mystr)) :
    StrM (Strings V) := do
  let r ← call
  pure ((s.set vs.first r.1).set vs.second r.2)

def perform (mem : Memory) (s : Strings V) : Op V → StrM (Strings V)
  | .allocText v text => s.change v (strAllocText mem (s.str v) text)
  | .copy vs => s.change vs.first (strCopy mem (s.str vs.first) (s.str vs.second))
  | .appendStr vs => s.change vs.first (strAppendStr mem (s.str vs.first) (s.str vs.second))
  | .appendText v text => s.change v (strAppendText mem (s.str v) text)
  | .appendChar v c => s.change v (strAppendChar mem (s.str v) c)
  | .free v => s.change v (pure (strFree (s.str v)))
  | .empty v => s.change v (strEmpty mem (s.str v))
  | .trunc v n => s.change v (strTrunc (s.str v) n.toNat)
  | .reserve v n => s.change v (strReserve mem (s.str v) n.toNat)
  | .left vs n => s.change vs.second (strLeft mem (s.str vs.first) (s.str vs.second) n.toNat)
  | .right vs n => s.change vs.second (strRight mem (s.str vs.first) (s.str vs.second) n.toNat)
  | .midToEnd vs n =>
    s.change vs.second (strMidToEnd mem (s.str vs.first) (s.str vs.second) n.toNat)
  | .splitText vs text =>
    s.changeBoth vs (strSplitText mem (s.str vs.first) (s.str vs.second) text)
  | .splitTextReverse vs text =>
    s.changeBoth vs (strSplitTextReverse mem (s.str vs.first) (s.str vs.second) text)
  | .splitChar vs c => s.changeBoth vs (strSplitChar mem (s.str vs.first) (s.str vs.second) c)
  | .splitCharReverse vs c =>
    s.changeBoth vs (strSplitCharReverse mem (s.str vs.first) (s.str vs.second) c)
  | .replaceChar v old new => s.change v (strReplaceChar (s.str v) old new)
  | .upper v => s.change v (strUpper (s.str v))
  | .rpad v w => s.change v (strRpad mem (s.str v) w.toNat)
  | .lpad v w => do
    let r ← strLpad mem (s.str v) s.tmp w.toNat
    pure { s.set v r.1 with tmp := r.2 }

def performAll (mem : Memory) (s : Strings V) : List (Op V) → StrM (Strings V)
  | [] => pure s
  | op :: ops => do
    let s ← perform mem s op
    performAll mem s ops

/-! ## The same calls on lists of bytes -/

def setBoth (m : V → Bytes) (vs : TwoStrings V) (r : Bytes × Bytes) : V → Bytes :=
  Function.update (Function.update m vs.first r.1) vs.second r.2

def Op.onTexts (m : V → Bytes) : Op V → V → Bytes
  | .allocText v text => Function.update m v (cString text)
  | .copy vs => Function.update m vs.first (m vs.second)
  | .appendStr vs => Function.update m vs.first (m vs.first ++ m vs.second)
  | .appendText v text => Function.update m v (m v ++ cString text)
  | .appendChar v c => Function.update m v (m v ++ [c])
  | .free v | .empty v => Function.update m v []
  | .trunc v n => Function.update m v ((m v).take n.toNat)
  | .reserve _ _ => m
  | .left vs n => Function.update m vs.second (Vsftpd.strLeft (m vs.first) n.toNat)
  | .right vs n => Function.update m vs.second (Vsftpd.strRight (m vs.first) n.toNat)
  | .midToEnd vs n => Function.update m vs.second (Vsftpd.strMidToEnd (m vs.first) n.toNat)
  | .splitText vs text => setBoth m vs (Vsftpd.strSplitText (m vs.first) (cString text))
  | .splitTextReverse vs text =>
    setBoth m vs (Vsftpd.strSplitTextReverse (m vs.first) (cString text))
  | .splitChar vs c => setBoth m vs (Vsftpd.strSplitText (m vs.first) (cString [c, 0]))
  | .splitCharReverse vs c =>
    setBoth m vs (Vsftpd.strSplitTextReverse (m vs.first) (cString [c, 0]))
  | .replaceChar v old new => Function.update m v (Vsftpd.strReplaceChar (m v) old new)
  | .upper v => Function.update m v (Vsftpd.strUpper (m v))
  | .rpad v w => Function.update m v ((m v).rightpad w.toNat 32)
  | .lpad v w => Function.update m v ((m v).leftpad w.toNat 32)

def textsAfter (m : V → Bytes) (ops : List (Op V)) : V → Bytes := ops.foldl Op.onTexts m

/-- The longest text that a call handles, or the room that it is to make. -/
def Op.size (m : V → Bytes) : Op V → Nat
  | .allocText _ text => (cString text).length
  | .copy vs => (m vs.second).length
  | .appendStr vs => (m vs.first).length + (m vs.second).length
  | .appendText v text => (m v).length + (cString text).length
  | .appendChar v _ => (m v).length + 1
  | .reserve _ n => n.toNat
  | .left vs _ | .right vs _ | .midToEnd vs _ => (m vs.first).length
  | .splitText vs text | .splitTextReverse vs text =>
    max (m vs.first).length (cString text).length
  | .splitChar vs c | .splitCharReverse vs c =>
    max (m vs.first).length (cString [c, 0]).length
  | .rpad v w | .lpad v w => max (m v).length w.toNat
  | .free _ | .empty _ | .trunc _ _ | .replaceChar _ _ _ | .upper _ => 0

/-- The argument of a call that has a range, and the end of the range. -/
def Op.limit (m : V → Bytes) : Op V → Option (Nat × Nat)
  | .trunc v n => some (n.toNat, (m v).length)
  | .left vs n | .right vs n | .midToEnd vs n => some (n.toNat, (m vs.first).length)
  | _ => none

/-- No more is cut off or extracted than there is. -/
def Op.InRange (m : V → Bytes) (op : Op V) : Prop := ∀ r ∈ op.limit m, r.1 ≤ r.2

def Op.truncated : Op V → Option V
  | .trunc v _ => some v
  | _ => none

def Op.reserved : Op V → Option (V × Nat)
  | .reserve v n => some (v, n.toNat)
  | _ => none

/-- `str_trunc()` finds a buffer.  The zero of `str_reserve()` hits no other character,
and without a buffer it is the terminator. -/
def Op.Keeps (s : Strings V) (m : V → Bytes) (op : Op V) : Prop :=
  (∀ v ∈ op.truncated, (s.str v).pBuf ≠ none) ∧
    ∀ r ∈ op.reserved, (r.2 < (m r.1).length → (m r.1)[r.2]? = some 0) ∧
      ((s.str r.1).pBuf = none → r.2 = 0)

instance (m : V → Bytes) : DecidablePred (Op.InRange m) :=
  fun op => inferInstanceAs (Decidable (∀ r ∈ op.limit m, r.1 ≤ r.2))

instance (s : Strings V) (m : V → Bytes) : DecidablePred (Op.Keeps s m) :=
  fun _ => inferInstanceAs (Decidable (_ ∧ _))

/-! ## One call -/

/-- Every string holds its text. -/
structure Represents (s : Strings V) (m : V → Bytes) : Prop where
  str : ∀ v, Holds (s.str v) (m v)
  tmp : ∃ rest, Holds s.tmp rest

section
variable {mem : Memory} {s : Strings V} {m : V → Bytes}

theorem Represents.set (h : Represents s m) {v : V} {p : Mystr} {text : Bytes}
    (hp : Holds p text) : Represents (s.set v p) (Function.update m v text) where
  str := by
    intro w
    unfold Strings.set
    by_cases hw : w = v
    · subst hw
      simpa using hp
    · simpa [Function.update_of_ne hw] using h.str w
  tmp := h.tmp

theorem Represents.change (h : Represents s m) {v : V} {call : StrM Mystr} {text : Bytes}
    {F : Fault → Prop} (hcall : Yields F (Holds · text) call) :
    Yields F (Represents · (Function.update m v text)) (s.change v call) :=
  Yields.bind hcall fun _ hp => Yields.pure (h.set hp)

theorem Represents.changeBoth (h : Represents s m) {vs : TwoStrings V}
    {call : StrM (Mystr × Mystr)} {r : Bytes × Bytes} {F : Fault → Prop}
    (hcall : Yields F (fun ps => Holds ps.1 r.1 ∧ Holds ps.2 r.2) call) :
    Yields F (Represents · (setBoth m vs r)) (s.changeBoth vs call) :=
  Yields.bind hcall fun _ hps => Yields.pure ((h.set hps.1).set hps.2)

theorem perform_yields (h : Represents s m) {op : Op V} (hrange : op.InRange m)
    (hkeeps : op.Keeps s m) :
    Yields (Exhausts mem (op.size m)) (Represents · (op.onTexts m)) (perform mem s op) := by
  cases op with
  | allocText v text => exact h.change (strAllocText_yields (h.str v))
  | copy vs => exact h.change (strCopy_yields (h.str _) (h.str _))
  | appendStr vs => exact h.change (strAppendStr_yields (h.str _) (h.str _))
  | appendText v text => exact h.change (strAppendText_yields (h.str v))
  | appendChar v c => exact h.change (strAppendChar_yields (h.str v))
  | free v => exact h.change (Yields.pure .null)
  | empty v => exact h.change (strEmpty_yields (h.str v))
  | trunc v n => exact h.change (strTrunc_yields (h.str v) (hkeeps.1 _ rfl) (hrange _ rfl))
  | reserve v n =>
      obtain ⟨hinside, hnull⟩ := hkeeps.2 _ rfl
      have hcall : Yields (Exhausts mem n.toNat) (Holds · (m v))
          (strReserve mem (s.str v) n.toNat) :=
        strReserve_yields (h.str v) n.toNat_lt hinside hnull
      have hsame := h.change (v := v) hcall
      rwa [Function.update_eq_self] at hsame
  | left vs n => exact h.change (strLeft_yields (h.str _) (h.str _) (hrange _ rfl))
  | right vs n => exact h.change (strRight_yields (h.str _) (h.str _) (hrange _ rfl))
  | midToEnd vs n => exact h.change (strMidToEnd_yields (h.str _) (h.str _) (hrange _ rfl))
  | splitText vs text => exact h.changeBoth (strSplitTextCommon_yields (h.str _) (h.str _))
  | splitTextReverse vs text =>
      exact h.changeBoth (strSplitTextCommon_yields (h.str _) (h.str _))
  | splitChar vs c => exact h.changeBoth (strSplitTextCommon_yields (h.str _) (h.str _))
  | splitCharReverse vs c =>
      exact h.changeBoth (strSplitTextCommon_yields (h.str _) (h.str _))
  | replaceChar v old new => exact h.change (strReplaceChar_yields (h.str v))
  | upper v => exact h.change (strUpper_yields (h.str v))
  | rpad v w => exact h.change (strRpad_yields (h.str v) _)
  | lpad v w =>
      obtain ⟨rest, htmp⟩ := h.tmp
      refine Yields.bind (strLpad_yields (h.str v) htmp _) fun r hr => ?_
      exact Yields.pure ⟨(h.set hr.1).str, hr.2⟩

end

/-! ## Runs -/

/-- The triple is in order: without a buffer it is zero, and a buffer is longer than the
text, which ends in a zero. -/
def Mystr.Ok (p : Mystr) : Prop :=
  (p.pBuf = none ∧ p.len = 0 ∧ p.allocBytes = 0) ∨
    ∃ buf, p.pBuf = some buf ∧ p.len < p.allocBytes ∧ p.allocBytes < buf.length ∧
      buf[p.len]? = some 0

def Mystr.contents (p : Mystr) : Bytes := (p.pBuf.getD []).take p.len

theorem Holds.ok {p : Mystr} {text : Bytes} (h : Holds p text) :
    p.Ok ∧ p.contents = text := by
  cases h with
  | null => exact ⟨.inl ⟨rfl, rfl, rfl⟩, rfl⟩
  | @block buf _ cap hterm hcap hbuf hmax =>
      refine ⟨.inr ⟨buf, rfl, hcap, ?_, (Lib.TextBlock.terminated_iff.mp hterm).2⟩, hterm.take⟩
      show cap < buf.length
      omega

/-- The strings are in order and have the contents that the byte lists have. -/
def Strings.Refine (s : Strings V) (m : V → Bytes) : Prop :=
  s.tmp.Ok ∧ ∀ v, (s.str v).Ok ∧ (s.str v).contents = m v

omit [DecidableEq V] in
theorem Represents.refine {s : Strings V} {m : V → Bytes} (h : Represents s m) :
    s.Refine m := by
  obtain ⟨rest, htmp⟩ := h.tmp
  exact ⟨htmp.ok.1, fun v => (h.str v).ok⟩

/-- The calls all have arguments in range and meet the condition where they are made. -/
def AllKeep (mem : Memory) : Strings V → Nat → (V → Bytes) → List (Op V) → Prop
  | _, _, _, [] => True
  | s, blocks, m, op :: ops =>
    op.InRange m ∧ op.Keeps s m ∧
      OnOk (fun r => AllKeep mem r.1 r.2 (op.onTexts m) ops) (perform mem s op blocks)

instance decidableAllKeep (mem : Memory) : (ops : List (Op V)) → (s : Strings V) →
    (blocks : Nat) → (m : V → Bytes) → Decidable (AllKeep mem s blocks m ops)
  | [], _, _, _ => .isTrue trivial
  | op :: ops, s, blocks, m =>
    have : DecidablePred fun r : Strings V × Nat => AllKeep mem r.1 r.2 (op.onTexts m) ops :=
      fun r => decidableAllKeep mem ops r.1 r.2 (op.onTexts m)
    inferInstanceAs (Decidable (op.InRange m ∧ op.Keeps s m ∧
      OnOk (fun r => AllKeep mem r.1 r.2 (op.onTexts m) ops) (perform mem s op blocks)))

/-- A run ends with the strings refining the byte lists, or in a call for which a size or
the memory is exhausted. -/
def EndsWell (mem : Memory) (m : V → Bytes) (ops : List (Op V)) :
    Except Fault (Strings V × Nat) → Prop
  | .ok r => r.1.Refine (textsAfter m ops)
  | .error f => ∃ before op after, ops = before ++ op :: after ∧
    Exhausts mem (op.size (textsAfter m before)) f

theorem performAll_endsWell {mem : Memory} {s : Strings V} {blocks : Nat} {m : V → Bytes}
    {ops : List (Op V)} (hs : Represents s m) (h : AllKeep mem s blocks m ops) :
    EndsWell mem m ops (performAll mem s ops blocks) := by
  induction ops generalizing s blocks m with
  | nil => exact hs.refine
  | cons op ops ih =>
      obtain ⟨hrange, hkeeps, hrest⟩ := h
      have hyields : Yields (Exhausts mem _) _ (perform mem s op) := perform_yields hs hrange hkeeps
      have hstep := hyields blocks
      show EndsWell mem m (op :: ops)
        (perform mem s op blocks >>= fun r => performAll mem r.1 ops r.2)
      cases hrun : perform mem s op blocks with
      | error f =>
          rw [hrun] at hstep
          exact ⟨[], op, ops, rfl, hstep⟩
      | ok r =>
          rw [hrun] at hstep hrest
          have hends := ih hstep hrest
          rw [ok_bind]
          cases hlast : performAll mem r.1 ops r.2 with
          | ok r' =>
              rw [hlast] at hends
              exact hends
          | error f =>
              rw [hlast] at hends
              obtain ⟨before, op', after, rfl, hf⟩ := hends
              exact ⟨op :: before, op', after, rfl, hf⟩

/-- Calls on strings that begin as `INIT_MYSTR` do what they do on byte lists. -/
theorem performAll_refines (mem : Memory) (ops : List (Op V))
    (h : AllKeep mem {} 0 (fun _ => []) ops) :
    EndsWell mem (fun _ => []) ops (performAll mem {} ops 0) :=
  performAll_endsWell ⟨fun _ => .null, [], .null⟩ h

/-! ### Two runs -/

/-- There is always memory, and it is full of the same byte. -/
def plenty : Memory := fun _ => some fun _ => 170

def pair : TwoStrings Bool := ⟨false, true, by decide⟩

/-- `str_reserve()` behind the end of a text, `str_trunc()` with a buffer. -/
def splitting : List (Op Bool) :=
  [.allocText false (bytes "user pass"), .splitChar pair 32, .reserve false 12, .upper false,
    .lpad true 8, .trunc true 6, .copy pair]

theorem splitting_allKeep : AllKeep plenty {} 0 (fun _ => []) splitting := by
  decide +kernel

theorem performAll_splitting :
    EndsWell plenty (fun _ => []) splitting (performAll plenty {} splitting 0) :=
  performAll_refines plenty splitting splitting_allKeep

/-- Room for less than the text. -/
def reserving : List (Op Bool) := [.allocText false (bytes "ab"), .reserve false 0]

/-- The first letter is gone. -/
theorem reserving_not_endsWell :
    ¬ EndsWell plenty (fun _ => []) reserving (performAll plenty {} reserving 0) := by
  intro h
  have hcontents : ((performAll plenty {} reserving 0).toOption.map fun r =>
      (r.1.str false).contents) = some [0, 98] := by
    decide +kernel
  cases hrun : performAll plenty {} reserving 0 with
  | error f =>
      rw [hrun] at hcontents
      exact absurd hcontents (by simp [Except.toOption])
  | ok r =>
      rw [hrun] at h hcontents
      have hread : (r.1.str false).contents = textsAfter (fun _ => []) reserving false :=
        (h.2 false).2
      have hzero : (r.1.str false).contents = [0, 98] := Option.some.inj hcontents
      exact absurd (hzero.symm.trans hread) (by decide)

end Vsftpd.MyStr
