import Vsftpd.Convert
import Vsftpd.Lib.CheckedC
import Vsftpd.Lib.PartialTransfer

/-!
# The read and write loops of `sysutil.c`

`vsf_sysutil_read_loop` and `vsf_sysutil_write_loop`, over descriptors that answer one
call after the other.  The handlers behind `vsf_sysutil_check_pending_actions` touch
neither the buffer nor the descriptor, and are left out.
-/

namespace Vsftpd.SysIo

open Vsftpd.Lib.CheckedC Vsftpd.Lib.PartialTransfer

def eintr : Nat := 4

/-! ## Conversions -/

/-- An `int` as a `size_t` of 64 bits. -/
def sizeT (n : Int) : Nat := (n % 2 ^ 64).toNat

def unsignedInt (n : Int) : Nat := (n % 2 ^ 32).toNat

/-- What is returned from a function of type `int`. -/
def toInt (n : Int) : Int := n.bmod (2 ^ 32)

theorem sizeT_natCast {n : Nat} (h : n ≤ intMax) : sizeT n = n := by
  unfold intMax at h
  unfold sizeT
  omega

theorem unsignedInt_natCast {n : Nat} (h : n ≤ intMax) : unsignedInt n = n := by
  unfold intMax at h
  unfold unsignedInt
  omega

theorem toInt_natCast {n : Nat} (h : n ≤ intMax) : toInt n = n := by
  unfold intMax at h
  unfold toInt
  rw [Int.bmod_eq_of_le] <;> omega

/-! ## The loops -/

/-- `waiting` is a call that has not returned. -/
inductive Outcome where
  | returned (retval : Int)
  | died (text : String)
  | bounds
  | fuel
  | waiting
  deriving DecidableEq, Repr

section Read
variable {B : Type}

/-- A descriptor to read from, the bytes that are to come, and memory. -/
structure Source (B : Type) where
  answers : List Answer
  stream : Bytes
  mem : Mem B

variable [DecidableEq B]

/-- Without a result, the call has not returned. -/
def vsfSysutilRead (pBuf : ArrayPtr B) (size : Nat) (stream : Bytes) (mem : Mem B) :
    List Answer → Option Int × Source B
  | [] => (none, ⟨[], stream, mem⟩)
  | .failed savedErrno :: rest =>
    if savedErrno = eintr then vsfSysutilRead pBuf size stream mem rest
    else (some (-1), ⟨rest, stream, mem⟩)
  | .moved n :: rest =>
    let bs := taken n size stream
    (some bs.length, ⟨rest, stream.drop bs.length, pBuf.fill bs mem⟩)

omit [DecidableEq B] in
/-- `char_buf_tmp`: what is left of the buffer, behind the casts. -/
def charBufTmp (pBuf : ArrayPtr B) (size numRead : Nat) : Option (ArrayPtr B) :=
  (pBuf.dynamicBoundsCast (size + numRead : Nat)).bind fun charBuf =>
    (charBuf.add numRead).dynamicBoundsCast size

/-- The comparison `retval < 0` is one of unsigned numbers. -/
def readLoop (pBuf : ArrayPtr B) : Nat → Nat → Nat → Source B → Outcome × Source B
  | 0, _, _, io => (.fuel, io)
  | fuel + 1, size, numRead, io =>
    match charBufTmp pBuf size numRead with
    | none => (.bounds, io)
    | some buf =>
      match vsfSysutilRead buf size io.stream io.mem io.answers with
      | (none, io) => (.waiting, io)
      | (some result, io) =>
        let retval := sizeT result
        if retval < 0 then (.returned (toInt retval), io)
        else if retval = 0 then (.returned (toInt numRead), io)
        else if unsignedInt retval > size then
          (.died "retval too big in vsf_sysutil_read_loop", io)
        else if size - unsignedInt retval = 0 then
          (.returned (toInt (sizeT (numRead + retval))), io)
        else readLoop pBuf fuel (size - unsignedInt retval) (sizeT (numRead + retval)) io

def vsfSysutilReadLoop (pBuf : ArrayPtr B) (sizeBound : Nat) (io : Source B) :
    Outcome × Source B :=
  if sizeBound > intMax then (.died "size too big in vsf_sysutil_read_loop", io)
  else readLoop pBuf (sizeBound + 1) sizeBound 0 io

end Read

section Write
variable {B : Type}

/-- A descriptor to write to, and what it has been given. -/
structure Sink where
  answers : List Answer
  sent : Bytes
  deriving DecidableEq, Repr

def vsfSysutilWrite (pBuf : ArrayPtr B) (size : Nat) (mem : Mem B) (sent : Bytes) :
    List Answer → Option Int × Sink
  | [] => (none, ⟨[], sent⟩)
  | .failed savedErrno :: rest =>
    if savedErrno = eintr then vsfSysutilWrite pBuf size mem sent rest
    else (some (-1), ⟨rest, sent⟩)
  | .moved n :: rest =>
    let bs := taken n size (pBuf.bytes size mem)
    (some bs.length, ⟨rest, sent ++ bs⟩)

def writeLoop (pBuf : ArrayPtr B) (mem : Mem B) : Nat → Nat → Int → Sink → Outcome × Sink
  | 0, _, _, io => (.fuel, io)
  | fuel + 1, size, numWritten, io =>
    match vsfSysutilWrite (pBuf.add numWritten) size mem io.sent io.answers with
    | (none, io) => (.waiting, io)
    | (some retval, io) =>
      if retval < 0 then (.returned retval, io)
      else if retval = 0 then (.returned numWritten, io)
      else if unsignedInt retval > size then
        (.died "retval too big in vsf_sysutil_write_loop", io)
      else if size - unsignedInt retval = 0 then (.returned (numWritten + retval), io)
      else writeLoop pBuf mem fuel (size - unsignedInt retval) (numWritten + retval) io

def vsfSysutilWriteLoop (pBuf : ArrayPtr B) (sizeBound : Nat) (mem : Mem B) (io : Sink) :
    Outcome × Sink :=
  if sizeBound > intMax then (.died "size too big in vsf_sysutil_write_loop", io)
  else writeLoop pBuf mem (sizeBound + 1) sizeBound 0 io

end Write

/-! ## What a transfer comes to -/

/-- The errors after which a call is made again. -/
def again (errno : Nat) : Bool := errno = eintr

/-- The result for the caller, when `done` bytes were moved before. -/
def outcomeOf (done : Nat) (p : Progress UInt8) : Outcome :=
  match p.ending with
  | .full | .closed => .returned (done + p.moved.length : Nat)
  | .failed => .returned (-1)
  | .waiting => .waiting

/-- A call of one of the loops: `size` bytes at `off` in a block. -/
structure Request (B : Type) where
  block : B
  off : Int
  size : Nat
  pos : 0 < size
  isInt : size ≤ intMax

/-- The buffer is declared with `byte_count(size)`. -/
def Request.pBuf {B : Type} (r : Request B) : ArrayPtr B :=
  ⟨some (r.block, r.off), r.off, r.off + r.size⟩

/-- What was read is in the buffer, in its order; no other byte is lost. -/
def ReadLoopRight {B : Type} [DecidableEq B] (r : Request B) (io : Source B) : Prop :=
  let p := run again io.answers r.size io.stream
  p.Sound r.size io.stream ∧
    vsfSysutilReadLoop r.pBuf r.size io =
      (outcomeOf 0 p, ⟨p.rest, p.left, r.pBuf.fill p.moved io.mem⟩)

/-- What was written is the beginning of the buffer. -/
def WriteLoopRight {B : Type} (r : Request B) (mem : Mem B) (io : Sink) : Prop :=
  let p := run again io.answers r.size (r.pBuf.bytes r.size mem)
  p.Sound r.size (r.pBuf.bytes r.size mem) ∧
    vsfSysutilWriteLoop r.pBuf r.size mem io = (outcomeOf 0 p, ⟨p.rest, io.sent ++ p.moved⟩)

/-! ## Reading -/

section
variable {B : Type} [DecidableEq B] {pBuf : ArrayPtr B} {b : B} {off : Int}
  {size done fuel : Nat} {stream : Bytes} {mem : Mem B} {answers : List Answer}

/-- The outcome of the loop as it is: a read that fails ends the program. -/
def readOutcome (done : Nat) (p : Progress UInt8) : Outcome :=
  match p.ending with
  | .failed => .died "retval too big in vsf_sysutil_read_loop"
  | _ => outcomeOf done p

theorem fill_nil (pBuf : ArrayPtr B) (mem : Mem B) : pBuf.fill [] mem = mem := by
  unfold ArrayPtr.fill
  cases pBuf.addr with
  | none => rfl
  | some a =>
      funext b' j
      apply if_neg
      rintro ⟨-, hlo, hhi⟩
      rw [List.length_nil] at hhi
      omega

theorem fill_congr {p q : ArrayPtr B} (h : p.addr = q.addr) (bs : Bytes) (mem : Mem B) :
    p.fill bs mem = q.fill bs mem := by
  unfold ArrayPtr.fill
  rw [h]

theorem fill_append (pBuf : ArrayPtr B) (done : Nat) (bs cs : Bytes) (mem : Mem B) :
    (pBuf.add (done + bs.length : Nat)).fill cs ((pBuf.add done).fill bs mem) =
      (pBuf.add done).fill (bs ++ cs) mem := by
  unfold ArrayPtr.fill ArrayPtr.add
  cases pBuf.addr with
  | none => rfl
  | some a =>
      funext b' j
      simp only [Option.map_some, List.length_append]
      by_cases hblock : b' = a.1
      · simp only [hblock, true_and, List.getD_eq_getElem?_getD]
        by_cases hin : a.2 + (done : Int) ≤ j ∧ j < a.2 + done + bs.length
        · rw [if_neg (by omega), if_pos hin, if_pos (by omega),
            List.getElem?_append_left (by omega)]
        · by_cases hbehind : a.2 + (done : Int) + bs.length ≤ j ∧
              j < a.2 + done + bs.length + cs.length
          · rw [if_pos (by omega), if_pos (by omega), List.getElem?_append_right (by omega)]
            congr 2
            omega
          · rw [if_neg (by omega), if_neg hin, if_neg (by omega)]
      · simp only [hblock, false_and, if_false]

omit [DecidableEq B] in
theorem charBufTmp_eq (hbuf : pBuf.addr = some (b, off)) (hlo : pBuf.lo ≤ off)
    (hhi : off + (size + done : Nat) ≤ pBuf.hi) :
    charBufTmp pBuf size done = some ⟨some (b, off + done), off + done, off + done + size⟩ := by
  unfold charBufTmp
  rw [ArrayPtr.cast_inside _ hbuf hlo hhi, Option.bind_some]
  apply ArrayPtr.cast_inside
  · rfl
  · show off ≤ off + done
    omega
  · show off + done + size ≤ off + (size + done : Nat)
    omega

section Turns
variable (hbuf : pBuf.addr = some (b, off)) (hlo : pBuf.lo ≤ off)
  (hhi : off + (size + done : Nat) ≤ pBuf.hi) (hint : size + done ≤ intMax)
include hbuf hlo hhi

theorem readLoop_nil :
    readLoop pBuf (fuel + 1) size done ⟨[], stream, mem⟩ = (.waiting, ⟨[], stream, mem⟩) := by
  rw [readLoop, charBufTmp_eq hbuf hlo hhi]
  rfl

theorem readLoop_again (rest : List Answer) :
    readLoop pBuf (fuel + 1) size done ⟨.failed eintr :: rest, stream, mem⟩ =
      readLoop pBuf (fuel + 1) size done ⟨rest, stream, mem⟩ := by
  rw [readLoop, readLoop, charBufTmp_eq hbuf hlo hhi]
  rfl

include hint

/-- As a `size_t` and as an `unsigned int`, a result of -1 is more than was asked for. -/
theorem readLoop_failed {errno : Nat} (herrno : errno ≠ eintr) (rest : List Answer) :
    readLoop pBuf (fuel + 1) size done ⟨.failed errno :: rest, stream, mem⟩ =
      (.died "retval too big in vsf_sysutil_read_loop", ⟨rest, stream, mem⟩) := by
  have hbig : unsignedInt (sizeT (-1)) > size := by
    unfold intMax at hint
    show 4294967295 > size
    omega
  rw [readLoop, charBufTmp_eq hbuf hlo hhi]
  dsimp only
  rw [vsfSysutilRead, if_neg herrno]
  dsimp only
  rw [if_neg (Nat.not_lt_zero _), if_neg (by decide), if_pos hbig]

theorem readLoop_moved (n : Nat) (rest : List Answer) :
    readLoop pBuf (fuel + 1) size done ⟨.moved n :: rest, stream, mem⟩ =
      let bs := taken n size stream
      let io : Source B := ⟨rest, stream.drop bs.length, (pBuf.add done).fill bs mem⟩
      if bs = [] then (.returned done, io)
      else if bs.length = size then (.returned (done + bs.length : Nat), io)
      else readLoop pBuf fuel (size - bs.length) (done + bs.length) io := by
  have hle := length_taken_le n size stream
  have hdone : done ≤ intMax := by omega
  have hsum : done + (taken n size stream).length ≤ intMax := by omega
  have hfill := fill_congr (p := ⟨some (b, off + done), off + done, off + done + size⟩)
    (q := pBuf.add done) (by rw [ArrayPtr.add, hbuf]; rfl) (taken n size stream) mem
  rw [readLoop, charBufTmp_eq hbuf hlo hhi]
  dsimp only
  rw [vsfSysutilRead]
  dsimp only
  rw [hfill, sizeT_natCast (by omega), unsignedInt_natCast (by omega), ← Int.natCast_add,
    sizeT_natCast (by omega), toInt_natCast hdone, toInt_natCast hsum,
    if_neg (Nat.not_lt_zero _), if_neg (Nat.not_lt.mpr hle)]
  by_cases hnone : taken n size stream = []
  · rw [if_pos hnone, if_pos (List.length_eq_zero_iff.mpr hnone)]
  · have hlen : (taken n size stream).length ≠ 0 := fun h => hnone (List.length_eq_zero_iff.mp h)
    rw [if_neg hnone, if_neg hlen]
    by_cases hfull : (taken n size stream).length = size
    · rw [if_pos hfull, if_pos (by omega)]
    · rw [if_neg hfull, if_neg (by omega)]

end Turns

theorem outcomeOf_after (items : Bytes) (p : Progress UInt8) :
    outcomeOf done (p.after items) = outcomeOf (done + items.length) p := by
  unfold outcomeOf
  rw [Progress.after_ending, Progress.after_moved, List.length_append, Nat.add_assoc]

/-- What is read goes where the bytes before it end. -/
theorem readLoop_run (hbuf : pBuf.addr = some (b, off)) (hlo : pBuf.lo ≤ off)
    (hhi : off + (size + done : Nat) ≤ pBuf.hi) (hint : size + done ≤ intMax)
    (hfuel : size < fuel) :
    readLoop pBuf fuel size done ⟨answers, stream, mem⟩ =
      (readOutcome done (run again answers size stream),
        ⟨(run again answers size stream).rest, (run again answers size stream).left,
          (pBuf.add done).fill (run again answers size stream).moved mem⟩) := by
  induction answers generalizing size done fuel stream mem with
  | nil =>
      obtain ⟨fuel, rfl⟩ : ∃ k, fuel = k + 1 := ⟨fuel - 1, by omega⟩
      rw [readLoop_nil hbuf hlo hhi, run, fill_nil]
      rfl
  | cons answer rest ih =>
      obtain ⟨fuel, rfl⟩ : ∃ k, fuel = k + 1 := ⟨fuel - 1, by omega⟩
      cases answer with
      | failed errno =>
          by_cases herrno : errno = eintr
          · rw [herrno, readLoop_again hbuf hlo hhi, ih hhi hint hfuel]
            rfl
          · rw [readLoop_failed hbuf hlo hhi hint herrno, run,
              if_neg (by simpa [again] using herrno), fill_nil]
            rfl
      | moved n =>
          have hle := length_taken_le n size stream
          rw [readLoop_moved hbuf hlo hhi hint, run]
          dsimp only
          split_ifs with hnone hfull
          · rw [hnone]
            rfl
          · rfl
          · have hlen : (taken n size stream).length ≠ 0 :=
              fun h => hnone (List.length_eq_zero_iff.mp h)
            rw [ih (by omega) (by omega) (by omega), fill_append]
            unfold readOutcome
            rw [outcomeOf_after]
            rfl

end

/-! ## Writing -/

section
variable {B : Type} {pBuf : ArrayPtr B} {mem : Mem B} {size done fuel : Nat} {numWritten : Int}
  {sent : Bytes} {answers : List Answer}

theorem drop_bytes (pBuf : ArrayPtr B) (size k : Nat) (mem : Mem B) :
    (pBuf.bytes size mem).drop k = (pBuf.add k).bytes (size - k) mem := by
  unfold ArrayPtr.bytes ArrayPtr.add
  cases pBuf.addr with
  | none => exact List.drop_nil
  | some a =>
      rw [Option.map_some]
      dsimp only
      apply List.ext_getElem
      · simp
      · intro i _ _
        simp [Int.add_assoc]

theorem add_add (pBuf : ArrayPtr B) (k l : Nat) : (pBuf.add k).add l = pBuf.add (k + l : Nat) := by
  unfold ArrayPtr.add
  cases pBuf.addr with
  | none => rfl
  | some a => simp [Int.add_assoc]

theorem writeLoop_again (rest : List Answer) :
    writeLoop pBuf mem (fuel + 1) size numWritten ⟨.failed eintr :: rest, sent⟩ =
      writeLoop pBuf mem (fuel + 1) size numWritten ⟨rest, sent⟩ := rfl

theorem writeLoop_failed {errno : Nat} (herrno : errno ≠ eintr) (rest : List Answer) :
    writeLoop pBuf mem (fuel + 1) size numWritten ⟨.failed errno :: rest, sent⟩ =
      (.returned (-1), ⟨rest, sent⟩) := by
  rw [writeLoop]
  dsimp only
  rw [vsfSysutilWrite, if_neg herrno]
  rfl

theorem writeLoop_moved (hint : size + done ≤ intMax) (n : Nat) (rest : List Answer) :
    writeLoop pBuf mem (fuel + 1) size done ⟨.moved n :: rest, sent⟩ =
      let bs := taken n size ((pBuf.add done).bytes size mem)
      if bs = [] then (.returned done, ⟨rest, sent ++ bs⟩)
      else if bs.length = size then (.returned (done + bs.length : Nat), ⟨rest, sent ++ bs⟩)
      else writeLoop pBuf mem fuel (size - bs.length) (done + bs.length : Nat)
        ⟨rest, sent ++ bs⟩ := by
  have hle := length_taken_le n size ((pBuf.add done).bytes size mem)
  rw [writeLoop]
  dsimp only
  rw [vsfSysutilWrite]
  dsimp only
  rw [unsignedInt_natCast (by omega), ← Int.natCast_add, if_neg (by omega),
    if_neg (Nat.not_lt.mpr hle)]
  by_cases hnone : taken n size ((pBuf.add done).bytes size mem) = []
  · rw [if_pos hnone, hnone]
    rfl
  · have hlen : (taken n size ((pBuf.add done).bytes size mem)).length ≠ 0 :=
      fun h => hnone (List.length_eq_zero_iff.mp h)
    rw [if_neg hnone, if_neg (by omega)]
    by_cases hfull : (taken n size ((pBuf.add done).bytes size mem)).length = size
    · rw [if_pos hfull, if_pos (by omega)]
    · rw [if_neg hfull, if_neg (by omega)]

/-- What is written next lies behind the bytes that were written. -/
theorem writeLoop_run (hint : size + done ≤ intMax) (hfuel : size < fuel) :
    writeLoop pBuf mem fuel size done ⟨answers, sent⟩ =
      (outcomeOf done (run again answers size ((pBuf.add done).bytes size mem)),
        ⟨(run again answers size ((pBuf.add done).bytes size mem)).rest,
          sent ++ (run again answers size ((pBuf.add done).bytes size mem)).moved⟩) := by
  induction answers generalizing size done fuel sent with
  | nil =>
      obtain ⟨fuel, rfl⟩ : ∃ k, fuel = k + 1 := ⟨fuel - 1, by omega⟩
      rw [run, List.append_nil]
      rfl
  | cons answer rest ih =>
      obtain ⟨fuel, rfl⟩ : ∃ k, fuel = k + 1 := ⟨fuel - 1, by omega⟩
      cases answer with
      | failed errno =>
          by_cases herrno : errno = eintr
          · rw [herrno, writeLoop_again, ih hint hfuel]
            rfl
          · rw [writeLoop_failed herrno, run, if_neg (by simpa [again] using herrno),
              List.append_nil]
            rfl
      | moved n =>
          have hle := length_taken_le n size ((pBuf.add done).bytes size mem)
          rw [writeLoop_moved hint, run]
          dsimp only
          split_ifs with hnone hfull
          · rw [hnone]
            rfl
          · rfl
          · have hlen : (taken n size ((pBuf.add done).bytes size mem)).length ≠ 0 :=
              fun h => hnone (List.length_eq_zero_iff.mp h)
            rw [ih (by omega) (by omega), outcomeOf_after, drop_bytes, add_add,
              List.append_assoc]
            rfl

end

/-! ## The loops on a request -/

section
variable {B : Type}

theorem ArrayPtr.add_zero (p : ArrayPtr B) : p.add (0 : Nat) = p := by
  simp [ArrayPtr.add]

theorem writeLoop_right (r : Request B) (mem : Mem B) (io : Sink) : WriteLoopRight r mem io := by
  have hrun : writeLoop r.pBuf mem (r.size + 1) r.size (0 : Nat) ⟨io.answers, io.sent⟩ = _ :=
    writeLoop_run r.isInt (Nat.lt_succ_self r.size)
  rw [ArrayPtr.add_zero] at hrun
  unfold WriteLoopRight vsfSysutilWriteLoop
  rw [if_neg (Nat.not_lt.mpr r.isInt)]
  exact ⟨run_sound r.pos _ _, hrun⟩

variable [DecidableEq B]

theorem vsfSysutilReadLoop_run {pBuf : ArrayPtr B} {b : B} {off : Int} {size : Nat}
    (hbuf : pBuf.addr = some (b, off)) (hlo : pBuf.lo ≤ off) (hhi : off + size ≤ pBuf.hi)
    (hint : size ≤ intMax) (io : Source B) :
    vsfSysutilReadLoop pBuf size io =
      (readOutcome 0 (run again io.answers size io.stream),
        ⟨(run again io.answers size io.stream).rest, (run again io.answers size io.stream).left,
          pBuf.fill (run again io.answers size io.stream).moved io.mem⟩) := by
  have hrun : readLoop pBuf (size + 1) size 0 ⟨io.answers, io.stream, io.mem⟩ = _ :=
    readLoop_run hbuf hlo hhi hint (Nat.lt_succ_self size)
  rw [ArrayPtr.add_zero] at hrun
  unfold vsfSysutilReadLoop
  rw [if_neg (Nat.not_lt.mpr hint)]
  exact hrun

theorem readLoop_request (r : Request B) (io : Source B) :
    vsfSysutilReadLoop r.pBuf r.size io =
      (readOutcome 0 (run again io.answers r.size io.stream),
        ⟨(run again io.answers r.size io.stream).rest, (run again io.answers r.size io.stream).left,
          r.pBuf.fill (run again io.answers r.size io.stream).moved io.mem⟩) :=
  vsfSysutilReadLoop_run rfl (Int.le_refl r.off) (Int.le_refl _) r.isInt io

theorem readOutcome_eq_iff (done : Nat) (p : Progress UInt8) :
    readOutcome done p = outcomeOf done p ↔ p.ending ≠ .failed := by
  unfold readOutcome outcomeOf
  cases p.ending with
  | failed => exact iff_of_false (fun h => by cases h) fun h => h rfl
  | full => exact iff_of_true rfl fun h => by cases h
  | closed => exact iff_of_true rfl fun h => by cases h
  | waiting => exact iff_of_true rfl fun h => by cases h

/-- The loops do what they are for unless a read is refused: with an error that is not an
interruption, before everything was read or the stream ended. -/
theorem loops_right_iff (r : Request B) (mem : Mem B) (source : Source B) (sink : Sink) :
    ReadLoopRight r source ∧ WriteLoopRight r mem sink ↔
      ¬ Refused again source.answers r.size source.stream := by
  rw [and_iff_left (writeLoop_right r mem sink), ← run_failed_iff, ← ne_eq,
    ← readOutcome_eq_iff 0]
  unfold ReadLoopRight
  rw [and_iff_right (run_sound r.pos _ _), readLoop_request]
  simp only [Prod.mk.injEq, and_true]

end

/-- One byte is asked for, and the read fails with `EIO`. -/
theorem readLoop_error_dies :
    let r : Request Unit := ⟨(), 0, 1, by decide, by decide⟩
    let io : Source Unit := ⟨[.failed 5], [], fun _ _ => 0⟩
    (vsfSysutilReadLoop r.pBuf r.size io).1 = .died "retval too big in vsf_sysutil_read_loop" ∧
      ¬ ReadLoopRight r io := by
  intro r io
  have hdied : (vsfSysutilReadLoop r.pBuf r.size io).1 =
      .died "retval too big in vsf_sysutil_read_loop" := by decide
  constructor
  · exact hdied
  · intro hright
    unfold ReadLoopRight at hright
    rw [hright.2] at hdied
    cases hdied

end Vsftpd.SysIo
