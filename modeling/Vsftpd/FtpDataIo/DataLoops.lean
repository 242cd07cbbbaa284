import Vsftpd.Ascii
import Vsftpd.Lib.ExceptRules

/-!
# The read/write loops of `ftpdataio.c`

`do_file_recv` and `do_file_send_rwloop`, over static buffers that are
allocated at first use.  The two functions share no buffer, so each has a
memory of its own.
-/

namespace Vsftpd.FtpDataIo

open Vsftpd.Lib Vsftpd.Lib.CheckedC
open Vsftpd.Ascii

def vsftpDataBufsize : Nat := 65536

/-- `get_chunk_size`, from `tunable_trans_chunk_size`. -/
def getChunkSize (tunableTransChunkSize : Nat) : Nat :=
  if tunableTransChunkSize < vsftpDataBufsize ∧ tunableTransChunkSize > 0 then
    if tunableTransChunkSize < 4096 then 4096 else tunableTransChunkSize
  else vsftpDataBufsize

theorem getChunkSize_le (t : Nat) : getChunkSize t ≤ vsftpDataBufsize := by
  unfold getChunkSize vsftpDataBufsize
  split_ifs <;> omega

/-! ## The descriptors -/

inductive ReadResult where
  | error
  | data (bs : List UInt8)
  deriving DecidableEq, Repr

/-- The two ends of a transfer.  When the listed read results are used up, reads
report end of file; when the listed write results are used up, writes take all
they are given. -/
structure Io where
  reads : List ReadResult
  writeRets : List Int := []
  out : List UInt8 := []
  deriving DecidableEq, Repr

def Io.read (io : Io) : ReadResult × Io :=
  match io.reads with
  | [] => (.data [], io)
  | r :: rs => (r, { io with reads := rs })

def Io.write (io : Io) (bs : List UInt8) : Int × Io :=
  match io.writeRets with
  | [] => (bs.length, { io with out := io.out ++ bs })
  | r :: rs => (r, { io with writeRets := rs, out := io.out ++ bs.take r.toNat })

theorem Io.read_cons (r : ReadResult) (rs : List ReadResult) (ws : List Int) (out : List UInt8) :
    (⟨r :: rs, ws, out⟩ : Io).read = (r, ⟨rs, ws, out⟩) := rfl

theorem Io.write_full (rs : List ReadResult) (out bs : List UInt8) :
    (⟨rs, [], out⟩ : Io).write bs = ((bs.length : Int), ⟨rs, [], out ++ bs⟩) := rfl

/-- The stream arriving in the given pieces, and writes that succeed. -/
def Io.ofChunks (chunks : List (List UInt8)) : Io := { reads := chunks.map .data }

structure TransferRet where
  retval : Int := 0
  transferred : Nat := 0
  deriving DecidableEq, Repr

/-- `ret_struct.transferred += retval`, unless the write failed. -/
def TransferRet.countWritten (ret : TransferRet) (wret : Int) : TransferRet :=
  if wret < 0 then ret else { ret with transferred := ret.transferred + wret.toNat }

theorem TransferRet.countWritten_ofNat (ret : TransferRet) (n : Nat) :
    ret.countWritten n = { ret with transferred := ret.transferred + n } := by
  have hpos : ¬ (n : Int) < 0 := by omega
  rw [TransferRet.countWritten, if_neg hpos, Int.toNat_natCast]

/-- `bounds` is a failed Checked C check; `fuel` is a run that was not given
enough turns of its loop. -/
inductive Fault where
  | bounds
  | fuel
  deriving DecidableEq, Repr

def checked {α : Type} : Option α → Except Fault α
  | none => .error .bounds
  | some a => .ok a

@[simp] theorem checked_some {α : Type} (a : α) : checked (some a) = .ok a := rfl
@[simp] theorem checked_none {α : Type} : checked (none : Option α) = .error .bounds := rfl

/-! ## `do_file_recv` -/

/-- `p_recvbuf`, null until the first transfer. -/
structure RecvStatics where
  allocated : Bool := false
  mem : Mem Unit := fun _ _ => 0

def RecvStatics.alloc (s : RecvStatics) : RecvStatics :=
  if s.allocated then s else { allocated := true, mem := fun _ _ => 0 }

def pRecvbuf : ArrayPtr Unit := ArrayPtr.start () (vsftpDataBufsize + 1)

def doFileRecvLoop (isAscii : Bool) (chunkSize : Nat) :
    Nat → Bool → TransferRet → Io → Mem Unit → Except Fault (TransferRet × Io × Mem Unit)
  | 0, _, _, _, _ => .error .fuel
  | fuel + 1, prevCr, ret, io, mem => do
    let pWritebuf ← checked ((pRecvbuf.add 1).dynamicBoundsCast vsftpDataBufsize)
    let recvTmp ← checked ((pRecvbuf.add 1).dynamicBoundsCast chunkSize)
    match io.read with
    | (.error, io) => return ({ ret with retval := -2 }, io, mem)
    | (.data bs, io) =>
      let mem := recvTmp.fill bs mem
      if bs.length = 0 ∧ prevCr = false then
        return (ret, io, mem)
      let ret := { ret with transferred := ret.transferred + bs.length }
      let (numToWrite, prevCr, pWritebuf, mem) ←
        if isAscii then do
          let tmp ← checked (pRecvbuf.dynamicBoundsCast bs.length)
          let (conv, mem) ← checked (vsfAsciiAsciiToBin tmp bs.length prevCr mem)
          -- what comes back is `p_out`, with the bounds `count(stored)`
          let pBuf := conv.pBuf.declared conv.pBuf 0 conv.stored
          let pWritebuf ← checked (pBuf.dynamicBoundsCast vsftpDataBufsize)
          pure (conv.stored, conv.lastWasCr, pWritebuf, mem)
        else pure (bs.length, prevCr, pWritebuf, mem)
      let tmp ← checked (pWritebuf.dynamicBoundsCast numToWrite)
      let (wret, io) := io.write (tmp.bytes numToWrite mem)
      if wret < 0 ∨ wret ≠ numToWrite then
        return ({ ret with retval := -1 }, io, mem)
      doFileRecvLoop isAscii chunkSize fuel prevCr ret io mem

def doFileRecv (tunableTransChunkSize : Nat) (isAscii : Bool) (fuel : Nat) (s : RecvStatics)
    (io : Io) : Except Fault (TransferRet × Io × RecvStatics) := do
  let s := s.alloc
  let (ret, io, mem) ←
    doFileRecvLoop isAscii (getChunkSize tunableTransChunkSize) fuel false {} io s.mem
  return (ret, io, { s with mem := mem })

/-! ## `do_file_send_rwloop` -/

inductive SendBuf where
  | read
  | ascii
  deriving DecidableEq, Repr

/-- `p_readbuf` and `p_asciibuf`. -/
structure SendStatics where
  readAllocated : Bool := false
  asciiAllocated : Bool := false
  mem : Mem SendBuf := fun _ _ => 0

/-- A fresh anonymous mapping is filled with zeros. -/
def zeroBlock (m : Mem SendBuf) (b : SendBuf) : Mem SendBuf :=
  fun b' i => if b' = b then 0 else m b' i

def SendStatics.allocRead (s : SendStatics) : SendStatics :=
  if s.readAllocated then s
  else { s with readAllocated := true, mem := zeroBlock s.mem .read }

def SendStatics.allocAscii (s : SendStatics) : SendStatics :=
  if s.asciiAllocated then s
  else { s with asciiAllocated := true, mem := zeroBlock s.mem .ascii }

def pReadbuf : ArrayPtr SendBuf := ArrayPtr.start .read vsftpDataBufsize
def pAsciibuf : ArrayPtr SendBuf := ArrayPtr.start .ascii (2 * vsftpDataBufsize)

/-- What happens to the `n` bytes just read before they are written: how many
bytes to write, and the new `prev_cr`. -/
def sendConvert (isAscii : Bool) (n : Nat) (prevCr : Bool) (mem : Mem SendBuf) :
    Except Fault (Nat × Bool × Mem SendBuf) :=
  if isAscii then do
    let readTmp2 ← checked (pReadbuf.dynamicBoundsCast n)
    -- the source casts `p_readbuf` here, not `p_asciibuf`
    let asciiTmp ← checked (pReadbuf.dynamicBoundsCast (2 * n : Nat))
    let (conv, mem) ← checked (vsfAsciiBinToAscii readTmp2 asciiTmp n prevCr mem)
    return (conv.stored, conv.lastWasCr, mem)
  else return (n, prevCr, mem)

def doFileSendRwLoop (isAscii : Bool) (chunkSize : Nat) (pWritefromBuf : ArrayPtr SendBuf) :
    Nat → Bool → TransferRet → Io → Mem SendBuf →
      Except Fault (TransferRet × Io × Mem SendBuf)
  | 0, _, _, _, _ => .error .fuel
  | fuel + 1, prevCr, ret, io, mem => do
    let readTmp ← checked (pReadbuf.dynamicBoundsCast chunkSize)
    match io.read with
    | (.error, io) => return ({ ret with retval := -1 }, io, mem)
    | (.data bs, io) =>
      let mem := readTmp.fill bs mem
      if bs.length = 0 then
        return (ret, io, mem)
      let (numToWrite, prevCr, mem) ← sendConvert isAscii bs.length prevCr mem
      let writeTmp ← checked (pWritefromBuf.dynamicBoundsCast numToWrite)
      let (wret, io) := io.write (writeTmp.bytes numToWrite mem)
      let ret := ret.countWritten wret
      if wret < 0 ∨ wret ≠ numToWrite then
        return ({ ret with retval := -2 }, io, mem)
      doFileSendRwLoop isAscii chunkSize pWritefromBuf fuel prevCr ret io mem

def doFileSendRwloop (tunableTransChunkSize : Nat) (isAscii : Bool) (fuel : Nat)
    (s : SendStatics) (io : Io) : Except Fault (TransferRet × Io × SendStatics) := do
  let s := s.allocRead
  let s := if isAscii then s.allocAscii else s
  -- `p_writefrom_buf` is declared with `count(VSFTP_DATA_BUFSIZE)`
  let pWritefromBuf := if isAscii
    then pAsciibuf.declared pAsciibuf 0 vsftpDataBufsize
    else pReadbuf.declared pReadbuf 0 vsftpDataBufsize
  let (ret, io, mem) ←
    doFileSendRwLoop isAscii (getChunkSize tunableTransChunkSize) pWritefromBuf fuel false {} io
      s.mem
  return (ret, io, { s with mem := mem })

/-- The static buffers after any number of earlier downloads. -/
inductive SendStatics.Reachable : SendStatics → Prop
  | init : Reachable {}
  | send {s s' : SendStatics} {tunableTransChunkSize fuel : Nat} {isAscii : Bool} {io io' : Io}
      {ret : TransferRet} (hs : Reachable s)
      (hrun : doFileSendRwloop tunableTransChunkSize isAscii fuel s io = .ok (ret, io', s')) :
      Reachable s'

end Vsftpd.FtpDataIo
