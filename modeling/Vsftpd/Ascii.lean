import Vsftpd.Lib.CheckedC

/-!
# ASCII mode conversion

The two converters of `ascii.c`, on checked pointers, and what they do to
memory.  The streams they are meant to compute, `crlfToLf` and `lfToCrlf`, are
stated separately.
-/

namespace Vsftpd.Ascii

open Vsftpd.Lib.CheckedC

variable {B : Type}

def cr : UInt8 := 13
def lf : UInt8 := 10

/-! ## The intended streams -/

/-- Every `\r\n` becomes `\n`; any other `\r` stays. -/
def crlfToLf : List UInt8 → List UInt8
  | [] => []
  | [b] => [b]
  | b :: c :: rest =>
    if b = cr ∧ c = lf then crlfToLf (c :: rest) else b :: crlfToLf (c :: rest)

/-- Every `\n` not preceded by `\r` becomes `\r\n`; `prevCr` says whether a `\r`
came just before the stream. -/
def lfToCrlf (prevCr : Bool) : List UInt8 → List UInt8
  | [] => []
  | b :: rest =>
    (if b = lf ∧ prevCr = false then [cr, lf] else [b]) ++ lfToCrlf (b == cr) rest

/-! ## `vsf_ascii_ascii_to_bin` -/

structure AsciiToBinRet (B : Type) where
  stored : Nat
  lastWasCr : Bool
  pBuf : ArrayPtr B

variable [DecidableEq B]

/-- The `while` loop with `n` characters to go, at `index = inLen - n`. -/
def asciiToBinLoop (pBuf : ArrayPtr B) (inLen : Nat) :
    Nat → Nat → ArrayPtr B → Nat → Bool → Checked B (AsciiToBinRet B)
  | 0, _, pOut, written, lastWasCr => return ⟨written, lastWasCr, pOut⟩
  | n + 1, index, pOut, written, lastWasCr => do
    let theChar ← pBuf.load (index + 1)
    if theChar ≠ cr then
      pOut.store 0 theChar
      asciiToBinLoop pBuf inLen n (index + 1) (pOut.add 1) (written + 1) lastWasCr
    else if index = inLen - 1 then
      asciiToBinLoop pBuf inLen n (index + 1) pOut written true
    else
      let next ← pBuf.load (index + 2)
      if next ≠ lf then
        pOut.store 0 theChar
        asciiToBinLoop pBuf inLen n (index + 1) (pOut.add 1) (written + 1) lastWasCr
      else
        asciiToBinLoop pBuf inLen n (index + 1) pOut written lastWasCr

/-- `p_buf` has `count(in_len)`.  `p_out` is still null when its first
character is looked at. -/
def vsfAsciiAsciiToBin (pBuf : ArrayPtr B) (inLen : Nat) (prevCr : Bool) :
    Checked B (AsciiToBinRet B) := do
  let pOut := ArrayPtr.null.declared pBuf 1 inLen
  let putCr ←
    if prevCr then
      if inLen = 0 then pure true
      else do
        let first ← pOut.load 0
        pure (first != lf)
    else pure false
  if putCr then
    pBuf.store 0 cr
    asciiToBinLoop pBuf inLen inLen 0 (pBuf.declared pBuf 1 inLen) 1 false
  else
    asciiToBinLoop pBuf inLen inLen 0 ((pBuf.add 1).declared pBuf 1 inLen) 0 false

/-- The loop looks one byte behind the `count(in_len)` of its buffer: with a
character to go it never finishes. -/
theorem asciiToBinLoop_stops {pBuf : ArrayPtr B} {b : B} {off : Int} {inLen n index : Nat}
    (hp : pBuf.addr = some (b, off)) (hhi : pBuf.hi = off + inLen) (hn : 0 < n)
    (hindex : index + n = inLen) (pOut : ArrayPtr B) (written : Nat) (lastWasCr : Bool)
    (m : Mem B) : asciiToBinLoop pBuf inLen n index pOut written lastWasCr m = none := by
  induction n generalizing index pOut written lastWasCr m with
  | zero => omega
  | succ n ih =>
      unfold asciiToBinLoop
      by_cases hlast : n = 0
      · -- the last turn reads `p_buf[in_len]`
        apply bind_stop
        apply ArrayPtr.load_outside hp
        omega
      · have hrest : ∀ pOut written lastWasCr m,
            asciiToBinLoop pBuf inLen n (index + 1) pOut written lastWasCr m = none :=
          fun pOut written lastWasCr m =>
            ih (by omega) (by omega) pOut written lastWasCr m
        have hstore : ∀ c, (do
            pOut.store 0 c
            asciiToBinLoop pBuf inLen n (index + 1) (pOut.add 1) (written + 1) lastWasCr) m =
              none := by
          intro c
          rw [bind_run]
          cases pOut.store 0 c m with
          | none => rfl
          | some r => exact hrest _ _ _ _
        rw [bind_run]
        cases hload : pBuf.load (index + 1) m with
        | none => rfl
        | some r =>
            obtain ⟨theChar, m'⟩ := r
            obtain rfl := ArrayPtr.load_mem hload
            rw [Option.bind_some]
            dsimp only
            split_ifs with hcr hend
            · exact hstore theChar
            · exact hrest _ _ _ _
            · rw [bind_run]
              cases hload2 : pBuf.load (index + 2) m' with
              | none => rfl
              | some r2 =>
                  obtain ⟨next, m''⟩ := r2
                  obtain rfl := ArrayPtr.load_mem hload2
                  rw [Option.bind_some]
                  dsimp only
                  split_ifs with hlf
                  · exact hstore theChar
                  · exact hrest _ _ _ _

/-- A chunk that is not empty fails a check: through the null `p_out` after a
`\r`, else at the byte behind the buffer. -/
theorem vsfAsciiAsciiToBin_stops {pBuf : ArrayPtr B} {b : B} {off : Int} {inLen : Nat}
    (hp : pBuf.addr = some (b, off)) (hhi : pBuf.hi = off + inLen) (hlen : 0 < inLen)
    (prevCr : Bool) (m : Mem B) : vsfAsciiAsciiToBin pBuf inLen prevCr m = none := by
  unfold vsfAsciiAsciiToBin
  cases prevCr with
  | true =>
      have hnull : ((ArrayPtr.null : ArrayPtr B).declared pBuf 1 inLen).addr = none := by
        simp [ArrayPtr.declared, hp, ArrayPtr.null]
      have hload : ((ArrayPtr.null : ArrayPtr B).declared pBuf 1 inLen).load 0 m = none := by
        simp only [ArrayPtr.load, hnull]
      have hzero : inLen ≠ 0 := by omega
      simp only [if_true, hzero, if_false]
      exact bind_stop hload
  | false =>
      simp only [Bool.false_eq_true, if_false, pure_bind]
      exact asciiToBinLoop_stops hp hhi hlen (by omega) _ _ _ _

/-! ## `vsf_ascii_bin_to_ascii` -/

structure BinToAsciiRet where
  stored : Nat
  lastWasCr : Bool
  deriving DecidableEq, Repr

/-- The `while` loop with `n` characters to go. -/
def binToAsciiLoop (pIn : ArrayPtr B) :
    Nat → Nat → ArrayPtr B → Nat → UInt8 → Bool → Checked B BinToAsciiRet
  | 0, _, _, written, _, lastWasCr => return ⟨written, lastWasCr⟩
  | n + 1, index, pOut, written, lastChar, _ => do
    let theChar ← pIn.load index
    let (pOut, written) ←
      if theChar = lf ∧ lastChar ≠ cr then do
        pOut.store 0 cr
        pure (pOut.add 1, written + 1)
      else pure (pOut, written)
    pOut.store 0 theChar
    binToAsciiLoop pIn n (index + 1) (pOut.add 1) (written + 1) theChar (theChar == cr)

/-- `p_in` has `count(in_len)`, `p_buf` has `count(2 * in_len)`. -/
def vsfAsciiBinToAscii (pIn pBuf : ArrayPtr B) (inLen : Nat) (prevCr : Bool) :
    Checked B BinToAsciiRet :=
  binToAsciiLoop pIn inLen 0 (pBuf.declared pBuf 0 (2 * inLen)) 0
    (if prevCr then cr else 0) prevCr

section BinToAscii

variable {pIn pOut : ArrayPtr B} {bIn bOut : B} {inOff outOff : Int} {inLen n index written : Nat}

/-- Where the loop stands: the input is readable, and the output pointer is
`written` bytes into an output of `2 * inLen`. -/
structure LoopAt (pIn pOut : ArrayPtr B) (bIn bOut : B) (inOff outOff : Int)
    (inLen index written : Nat) : Prop where
  inAddr : pIn.addr = some (bIn, inOff)
  inLo : pIn.lo ≤ inOff
  inHi : inOff + inLen ≤ pIn.hi
  outAddr : pOut.addr = some (bOut, outOff + written)
  outLo : pOut.lo ≤ outOff
  outHi : outOff + 2 * inLen ≤ pOut.hi
  room : written ≤ 2 * index

omit [DecidableEq B] in
theorem LoopAt.next {k : Nat} (h : LoopAt pIn pOut bIn bOut inOff outOff inLen index written)
    (hk : k ≤ 2) :
    LoopAt pIn (pOut.add k) bIn bOut inOff outOff inLen (index + 1) (written + k) where
  inAddr := h.inAddr
  inLo := h.inLo
  inHi := h.inHi
  outAddr := by
    have hsum : outOff + written + k = outOff + (written + k : Nat) := by omega
    simp only [ArrayPtr.add, h.outAddr, Option.map_some, hsum]
  outLo := h.outLo
  outHi := h.outHi
  room := by have := h.room; omega

omit [DecidableEq B] in
theorem LoopAt.load (h : LoopAt pIn pOut bIn bOut inOff outOff inLen index written)
    (hindex : index < inLen) (m : Mem B) :
    pIn.load index m = some (m bIn (inOff + index), m) := by
  have hlo := h.inLo
  have hhi := h.inHi
  exact ArrayPtr.load_inside h.inAddr (by omega) (by omega)

/-- One turn of the loop: a plain byte is copied, a `\n` that needs it gets a
`\r` in front. -/
theorem binToAsciiLoop_succ (h : LoopAt pIn pOut bIn bOut inOff outOff inLen index written)
    (hindex : index < inLen) (lastChar : UInt8) (lastWasCr : Bool) (m : Mem B) :
    binToAsciiLoop pIn (n + 1) index pOut written lastChar lastWasCr m =
      let c := m bIn (inOff + index)
      if c = lf ∧ lastChar ≠ cr then
        binToAsciiLoop pIn n (index + 1) (pOut.add 2) (written + 2) c (c == cr)
          (ArrayPtr.update (ArrayPtr.update m bOut (outOff + written) cr) bOut
            (outOff + written + 1) c)
      else
        binToAsciiLoop pIn n (index + 1) (pOut.add 1) (written + 1) c (c == cr)
          (ArrayPtr.update m bOut (outOff + written) c) := by
  have hroom := h.room
  have houtLo := h.outLo
  have houtHi := h.outHi
  have hstore : ∀ (c : UInt8) (m : Mem B),
      pOut.store 0 c m = some ((), ArrayPtr.update m bOut (outOff + written) c) := by
    intro c m
    have := ArrayPtr.store_inside (m := m) (v := c) (i := 0) h.outAddr (by omega) (by omega)
    rwa [Int.add_zero] at this
  have hadd : (pOut.add 1).addr = some (bOut, outOff + written + 1) := by
    rw [ArrayPtr.add, h.outAddr, Option.map_some]
  have hstore1 : ∀ (c : UInt8) (m : Mem B),
      (pOut.add 1).store 0 c m = some ((), ArrayPtr.update m bOut (outOff + written + 1) c) := by
    intro c m
    have hlo : (pOut.add 1).lo = pOut.lo := rfl
    have hhi : (pOut.add 1).hi = pOut.hi := rfl
    have := ArrayPtr.store_inside (m := m) (v := c) (i := 0) hadd (by omega) (by omega)
    rwa [Int.add_zero] at this
  have hadd2 : (pOut.add 1).add 1 = pOut.add 2 := by
    simp only [ArrayPtr.add, h.outAddr, Option.map_some, Int.add_assoc]
    rfl
  rw [binToAsciiLoop, bind_ok (h.load hindex m)]
  dsimp only
  split_ifs with hc
  · rw [bind_ok (hstore cr m), pure_bind]
    dsimp only
    rw [bind_ok (hstore1 _ _), hadd2]
  · rw [pure_bind]
    dsimp only
    rw [bind_ok (hstore _ _)]

/-- The loop never fails a check, stores at most two bytes for each byte it
reads, and touches only the output block. -/
theorem binToAsciiLoop_safe (h : LoopAt pIn pOut bIn bOut inOff outOff inLen index written)
    (hindex : index + n = inLen) (lastChar : UInt8) (lastWasCr : Bool) (m : Mem B) :
    ∃ ret m', binToAsciiLoop pIn n index pOut written lastChar lastWasCr m = some (ret, m') ∧
      ret.stored ≤ 2 * inLen ∧ ∀ b ≠ bOut, m' b = m b := by
  induction n generalizing index pOut written lastChar lastWasCr m with
  | zero =>
      have hroom := h.room
      exact ⟨_, m, rfl, by simp only; omega, fun _ _ => rfl⟩
  | succ n ih =>
      have hother : ∀ (m : Mem B) (i : Int) (c : UInt8), ∀ b ≠ bOut,
          ArrayPtr.update m bOut i c b = m b := by
        intro m i c b hb
        funext j
        exact ArrayPtr.update_ne (.inl hb)
      rw [binToAsciiLoop_succ h (by omega)]
      dsimp only
      split_ifs with hc
      · obtain ⟨ret, m', hrun, hstored, hframe⟩ :=
          ih (h.next (by omega : 2 ≤ 2)) (by omega) _ _ _
        refine ⟨ret, m', hrun, hstored, fun b hb => ?_⟩
        rw [hframe b hb, hother _ _ _ b hb, hother _ _ _ b hb]
      · obtain ⟨ret, m', hrun, hstored, hframe⟩ :=
          ih (h.next (by omega : 1 ≤ 2)) (by omega) _ _ _
        refine ⟨ret, m', hrun, hstored, fun b hb => ?_⟩
        rw [hframe b hb, hother _ _ _ b hb]

/-- Over NUL bytes the loop copies: nothing is inserted, even in place. -/
theorem binToAsciiLoop_zeros
    (h : LoopAt pIn pOut bIn bIn inOff inOff inLen index index)
    (hindex : index + n = inLen) (lastChar : UInt8) (lastWasCr : Bool) (m : Mem B)
    (hzero : ∀ k : Nat, index ≤ k → k < inLen → m bIn (inOff + k) = 0) :
    ∃ ret m', binToAsciiLoop pIn n index pOut index lastChar lastWasCr m = some (ret, m') ∧
      ret.stored = inLen := by
  induction n generalizing index pOut lastChar lastWasCr m with
  | zero => exact ⟨_, m, rfl, by simp only; omega⟩
  | succ n ih =>
      have hchar : m bIn (inOff + index) = 0 := hzero index (Nat.le_refl _) (by omega)
      have hlf : ¬ ((0 : UInt8) = lf ∧ lastChar ≠ cr) := by
        rintro ⟨h0, -⟩
        exact absurd h0 (by decide)
      rw [binToAsciiLoop_succ h (by omega)]
      simp only [hchar, hlf, if_false]
      apply ih (h.next (by omega : 1 ≤ 2)) (by omega)
      intro k hk hlt
      rw [ArrayPtr.update_ne (.inr (by omega))]
      exact hzero k (by omega) hlt

end BinToAscii

end Vsftpd.Ascii
