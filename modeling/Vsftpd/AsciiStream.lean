import Vsftpd.Ascii
import Mathlib.Algebra.Group.Nat.Defs

/-!
# Conversion piece by piece

`vsf_ascii_bin_to_ascii` on the pieces of a stream, each with an output buffer apart
from its input.  The flag of one call goes into the next.
-/

namespace Vsftpd.Ascii

open Vsftpd.Lib.CheckedC

/-! ## The stream -/

/-- Whether `\r` is the last byte, `prevCr` when there is none. -/
def endsInCr (prevCr : Bool) (s : List UInt8) : Bool := s.foldl (fun _ b => b == cr) prevCr

theorem lfToCrlf_append (prevCr : Bool) (s t : List UInt8) :
    lfToCrlf prevCr (s ++ t) = lfToCrlf prevCr s ++ lfToCrlf (endsInCr prevCr s) t := by
  induction s generalizing prevCr with
  | nil => rfl
  | cons b s ih =>
      rw [List.cons_append, lfToCrlf, lfToCrlf, ih, List.append_assoc]
      rfl

theorem lfToCrlf_length_le (prevCr : Bool) (s : List UInt8) :
    (lfToCrlf prevCr s).length ≤ 2 * s.length := by
  induction s generalizing prevCr with
  | nil => exact Nat.le_refl 0
  | cons b s ih =>
      have hrest := ih (b == cr)
      have hfirst : (if b = lf ∧ prevCr = false then [cr, lf] else [b]).length ≤ 2 := by
        split_ifs <;> simp
      rw [lfToCrlf, List.length_append, List.length_cons]
      omega

/-! ## Pieces of memory -/

variable {B : Type}

/-- `n` bytes of a block. -/
def segment (m : Mem B) (b : B) (off : Int) (n : Nat) : List UInt8 :=
  (List.range n).map fun (i : Nat) => m b (off + i)

theorem segment_succ (m : Mem B) (b : B) (off : Int) (n : Nat) :
    segment m b off (n + 1) = m b off :: segment m b (off + 1) n := by
  unfold segment
  rw [List.range_succ_eq_map, List.map_cons, List.map_map]
  congr 1
  · simp
  · apply List.map_congr_left
    intro i _
    show m b (off + ((i + 1 : Nat) : Int)) = _
    congr 1
    omega

theorem length_segment (m : Mem B) (b : B) (off : Int) (n : Nat) :
    (segment m b off n).length = n := by
  unfold segment
  rw [List.length_map, List.length_range]

theorem segment_congr {m m' : Mem B} {b : B} {off : Int} {n : Nat}
    (h : ∀ k : Nat, k < n → m' b (off + k) = m b (off + k)) :
    segment m' b off n = segment m b off n := by
  apply List.map_congr_left
  intro k hk
  exact h k (List.mem_range.mp hk)

/-! ## One call -/

variable [DecidableEq B]

section
variable {pIn pOut : ArrayPtr B} {bIn bOut : B} {inOff outOff : Int} {inLen n index written : Nat}

/-- What a call does to memory, from the place `written` of its output on. -/
structure Converts (m m' : Mem B) (bOut : B) (outOff : Int) (written : Nat) (out : List UInt8) :
    Prop where
  stored : segment m' bOut (outOff + written) out.length = out
  before : ∀ k : Nat, k < written → m' bOut (outOff + k) = m bOut (outOff + k)

omit [DecidableEq B] in
theorem Converts.nil (m : Mem B) (bOut : B) (outOff : Int) (written : Nat) :
    Converts m m bOut outOff written [] := ⟨rfl, fun _ _ => rfl⟩

/-- The byte that was stored in front of what a loop converts. -/
theorem Converts.cons {m m' : Mem B} {c : UInt8} {out : List UInt8}
    (h : Converts (ArrayPtr.update m bOut (outOff + written) c) m' bOut outOff (written + 1) out) :
    Converts m m' bOut outOff written (c :: out) where
  stored := by
    have hlater : outOff + written + 1 = outOff + (written + 1 : Nat) := by omega
    rw [List.length_cons, segment_succ, h.before written (Nat.lt_succ_self written), hlater,
      h.stored, ArrayPtr.update, if_pos ⟨rfl, rfl⟩]
  before := by
    intro k hk
    rw [h.before k (Nat.lt_succ_of_lt hk), ArrayPtr.update_ne (.inr (by omega))]

/-- The loop from the byte `index` on, when nothing it writes is part of the input. -/
theorem binToAsciiLoop_converts (h : LoopAt pIn pOut bIn bOut inOff outOff inLen index written)
    (hindex : index + n = inLen)
    (hapart : ∀ i j : Nat, i < inLen → j < 2 * inLen → bIn ≠ bOut ∨ inOff + i ≠ outOff + j)
    (lastChar : UInt8) (m : Mem B) :
    ∃ m', binToAsciiLoop pIn n index pOut written lastChar (lastChar == cr) m =
        some (⟨written + (lfToCrlf (lastChar == cr) (segment m bIn (inOff + index) n)).length,
          endsInCr (lastChar == cr) (segment m bIn (inOff + index) n)⟩, m') ∧
      Converts m m' bOut outOff written
        (lfToCrlf (lastChar == cr) (segment m bIn (inOff + index) n)) := by
  induction n generalizing index pOut written lastChar m with
  | zero => exact ⟨m, rfl, Converts.nil m bOut outOff written⟩
  | succ n ih =>
      have hroom := h.room
      have hnext : inOff + index + 1 = inOff + (index + 1 : Nat) := by omega
      -- a store leaves the rest of the input as it was
      have hinput : ∀ (m : Mem B) (j : Nat) (c : UInt8), j < 2 * inLen →
          segment (ArrayPtr.update m bOut (outOff + j) c) bIn (inOff + (index + 1 : Nat)) n =
            segment m bIn (inOff + (index + 1 : Nat)) n := by
        intro m j c hj
        apply segment_congr
        intro k hk
        apply ArrayPtr.update_ne
        rcases hapart (index + 1 + k) j (by omega) hj with hne | hne
        · exact .inl hne
        · right
          omega
      have hflag : (lastChar == cr) = false ↔ lastChar ≠ cr := by
        rw [beq_eq_false_iff_ne]
      have hsecond : outOff + written + 1 = outOff + (written + 1 : Nat) := by omega
      rw [binToAsciiLoop_succ h (by omega), segment_succ, hnext, lfToCrlf]
      dsimp only
      generalize hc : m bIn (inOff + index) = c
      split_ifs with hlf hspec hspec
      · obtain ⟨m', hrun, hconv⟩ := ih (h.next (by omega : 2 ≤ 2)) (by omega) c
          (ArrayPtr.update (ArrayPtr.update m bOut (outOff + written) cr) bOut
            (outOff + written + 1) c)
        rw [hsecond] at hrun hconv ⊢
        rw [hinput _ _ _ (by omega), hinput _ _ _ (by omega)] at hrun hconv
        refine ⟨m', hrun.trans ?_, ?_⟩
        · congr 3
          simp only [List.length_append, List.length_cons, List.length_nil]
          omega
        · rw [← hlf.1]
          exact Converts.cons (Converts.cons hconv)
      · exact absurd ⟨hlf.1, hflag.mpr hlf.2⟩ hspec
      · exact absurd ⟨hspec.1, hflag.mp hspec.2⟩ hlf
      · obtain ⟨m', hrun, hconv⟩ := ih (h.next (by omega : 1 ≤ 2)) (by omega) c
          (ArrayPtr.update m bOut (outOff + written) c)
        rw [hinput _ _ _ (by omega)] at hrun hconv
        refine ⟨m', hrun.trans ?_, Converts.cons hconv⟩
        congr 3
        simp only [List.length_append, List.length_cons, List.length_nil]
        omega

end

/-! ## The calls for a stream -/

/-- A call with its memory: the input, and apart from it an output of twice its length,
which is an `unsigned int`. -/
structure Call (B : Type) where
  mem : Mem B
  bIn : B
  inOff : Int
  bOut : B
  outOff : Int
  inLen : Nat
  isUnsigned : 2 * inLen < 2 ^ 32
  apart : ∀ i j : Nat, i < inLen → j < 2 * inLen → bIn ≠ bOut ∨ inOff + i ≠ outOff + j

namespace Call

variable {B : Type}

def pIn (call : Call B) : ArrayPtr B :=
  ⟨some (call.bIn, call.inOff), call.inOff, call.inOff + call.inLen⟩

def pBuf (call : Call B) : ArrayPtr B :=
  ⟨some (call.bOut, call.outOff), call.outOff, call.outOff + 2 * call.inLen⟩

def input (call : Call B) : List UInt8 := call.pIn.bytes call.inLen call.mem

/-- A piece in a block of its own, its output in another. -/
def ofBytes (bs : List UInt8) (h : 2 * bs.length < 2 ^ 32) : Call Bool where
  mem := fun _ off => bs.getD off.toNat 0
  bIn := false
  inOff := 0
  bOut := true
  outOff := 0
  inLen := bs.length
  isUnsigned := h
  apart := fun _ _ _ _ => .inl Bool.false_ne_true

theorem input_ofBytes (bs : List UInt8) (h : 2 * bs.length < 2 ^ 32) :
    (ofBytes bs h).input = bs := by
  show segment (ofBytes bs h).mem false 0 bs.length = bs
  apply List.ext_getElem (length_segment _ _ _ _)
  intro i hi hi'
  have hget : (segment (ofBytes bs h).mem false 0 bs.length)[i] =
      bs.getD (0 + (i : Int)).toNat 0 := by
    simp only [segment, List.getElem_map, List.getElem_range]
    rfl
  rw [hget, Int.zero_add, Int.toNat_natCast, List.getD_eq_getElem?_getD,
    List.getElem?_eq_getElem hi', Option.getD_some]

end Call

theorem vsfAsciiBinToAscii_converts (call : Call B) (prevCr : Bool) :
    ∃ m', vsfAsciiBinToAscii call.pIn call.pBuf call.inLen prevCr call.mem =
        some (⟨(lfToCrlf prevCr call.input).length, endsInCr prevCr call.input⟩, m') ∧
      call.pBuf.bytes (lfToCrlf prevCr call.input).length m' = lfToCrlf prevCr call.input := by
  have hlast : ((if prevCr then cr else 0) == cr) = prevCr := by cases prevCr <;> rfl
  have hat : LoopAt call.pIn (call.pBuf.declared call.pBuf 0 (2 * call.inLen)) call.bIn call.bOut
      call.inOff call.outOff call.inLen 0 0 := by
    constructor
    · rfl
    · exact Int.le_refl _
    · exact Int.le_refl _
    · simp [ArrayPtr.declared, Call.pBuf]
    · simp [ArrayPtr.declared, Call.pBuf]
    · simp [ArrayPtr.declared, Call.pBuf]
    · exact Nat.le_refl 0
  obtain ⟨m', hrun, hconv⟩ := binToAsciiLoop_converts hat (Nat.zero_add call.inLen) call.apart
    (if prevCr then cr else 0) call.mem
  have hzero : ∀ off : Int, off + (0 : Nat) = off := Int.add_zero
  have hinput : segment call.mem call.bIn (call.inOff + (0 : Nat)) call.inLen = call.input := by
    rw [hzero]
    rfl
  have hstored := hconv.stored
  rw [hlast, hinput] at hrun hstored
  refine ⟨m', ?_, ?_⟩
  · rw [Nat.zero_add] at hrun
    exact hrun
  · rw [hzero] at hstored
    exact hstored

/-- The outputs of the calls, the flag of each one handed on to the next. -/
def convertAll (prevCr : Bool) : List (Call B) → Option (List (List UInt8))
  | [] => some []
  | call :: rest =>
    match vsfAsciiBinToAscii call.pIn call.pBuf call.inLen prevCr call.mem with
    | none => none
    | some (ret, m') =>
      (convertAll ret.lastWasCr rest).map (call.pBuf.bytes ret.stored m' :: ·)

/-- However a stream is divided, the outputs make up its conversion. -/
theorem convertAll_eq (prevCr : Bool) (calls : List (Call B)) :
    ∃ outs, convertAll prevCr calls = some outs ∧
      outs.flatten = lfToCrlf prevCr (calls.map (·.input)).flatten ∧
      List.Forall₂ (fun call out => out.length ≤ 2 * call.inLen) calls outs := by
  induction calls generalizing prevCr with
  | nil => exact ⟨[], rfl, rfl, List.Forall₂.nil⟩
  | cons call rest ih =>
      obtain ⟨m', hrun, hout⟩ := vsfAsciiBinToAscii_converts call prevCr
      obtain ⟨outs, hrest, hflatten, hsizes⟩ := ih (endsInCr prevCr call.input)
      refine ⟨lfToCrlf prevCr call.input :: outs, ?_, ?_, ?_⟩
      · rw [convertAll, hrun]
        dsimp only
        rw [hrest, hout]
        rfl
      · rw [List.flatten_cons, hflatten, List.map_cons, List.flatten_cons, lfToCrlf_append]
      · have hlen : call.input.length = call.inLen := length_segment _ _ _ _
        have hsize := lfToCrlf_length_le prevCr call.input
        rw [hlen] at hsize
        exact List.Forall₂.cons hsize hsizes

/-- A line end that is divided between two calls. -/
def dividedLine : List (Call Bool) :=
  [.ofBytes [97, cr] (by decide), .ofBytes [lf, 98, lf] (by decide)]

theorem convertAll_dividedLine :
    ∃ outs, convertAll false dividedLine = some outs ∧ outs.flatten = [97, cr, lf, 98, cr, lf] ∧
      List.Forall₂ (fun call out => out.length ≤ 2 * call.inLen) dividedLine outs := by
  have hinput : (dividedLine.map (·.input)).flatten = [97, cr, lf, 98, lf] := by
    simp [dividedLine, Call.input_ofBytes]
  obtain ⟨outs, hrun, hflatten, hsizes⟩ := convertAll_eq false dividedLine
  rw [hinput] at hflatten
  exact ⟨outs, hrun, hflatten, hsizes⟩

end Vsftpd.Ascii
