import Vsftpd.Convert
import Vsftpd.FtpDataIo.DataLoops

/-!
# Downloads through `sendfile`

`do_file_send_sendfile` over `vsf_sysutil_sendfile` and `do_sendfile`, with the loop
of reads and writes that stands in where the system call does not work.  That loop
allocates a static buffer at its first use, and declares it one byte longer than it is.

Offsets and counts are natural numbers: `calc_num_send` has refused negative ones.
-/

namespace Vsftpd.FtpDataIo.Sendfile

open Vsftpd.Lib Vsftpd.Lib.CheckedC

/-! ## The descriptors -/

inductive SysError where
  | eintr
  | enosys
  | einval
  | eopnotsupp
  | other
  deriving DecidableEq, Repr

/-- An answer of `sendfile(2)`: nothing is sent with an error, at most `n` bytes
without one. -/
inductive SendAnswer where
  | error (e : SysError)
  | sent (n : Nat)
  deriving DecidableEq, Repr

/-- The file and the network connection.  A read or a write fails or takes at most so
many bytes; where a list of answers is used up, calls do all they are asked. -/
structure Wire where
  sends : List SendAnswer
  reads : List (Option Nat) := []
  writes : List (Option Nat) := []
  pos : Nat := 0
  out : Bytes := []
  deriving DecidableEq, Repr

/-- Bytes of the file go out from its position, which moves on. -/
def Wire.copy (file : Bytes) (n : Nat) (io : Wire) : Nat × Wire :=
  let bs := (file.drop io.pos).take n
  (bs.length, { io with pos := io.pos + bs.length, out := io.out ++ bs })

/-- From the position of the file on. -/
def Wire.sendfile (file : Bytes) (numSend : Nat) (io : Wire) : SendAnswer × Wire :=
  match io.sends with
  | [] =>
    let sent := io.copy file numSend
    (.sent sent.1, sent.2)
  | .error e :: rest => (.error e, { io with sends := rest })
  | .sent n :: rest =>
    let sent := { io with sends := rest }.copy file (min n numSend)
    (.sent sent.1, sent.2)

def Wire.read (file : Bytes) (size : Nat) (io : Wire) : Option Bytes × Wire :=
  match io.reads with
  | [] =>
    let bs := (file.drop io.pos).take size
    (some bs, { io with pos := io.pos + bs.length })
  | none :: rest => (none, { io with reads := rest })
  | some n :: rest =>
    let bs := (file.drop io.pos).take (min n size)
    (some bs, { io with reads := rest, pos := io.pos + bs.length })

def Wire.write (bs : Bytes) (io : Wire) : Option Nat × Wire :=
  match io.writes with
  | [] => (some bs.length, { io with out := io.out ++ bs })
  | none :: rest => (none, { io with writes := rest })
  | some n :: rest =>
    (some (min n bs.length), { io with writes := rest, out := io.out ++ bs.take n })

/-- A failed Checked C check, a loop without turns left, or a call of `bug()`. -/
inductive Stop where
  | bounds
  | fuel
  | bug (text : String)
  deriving DecidableEq, Repr

def cast (p : ArrayPtr Unit) (n : Int) : Except Stop (ArrayPtr Unit) :=
  match p.dynamicBoundsCast n with
  | none => .error .bounds
  | some q => .ok q

/-! ## `do_sendfile` -/

/-- The static variables of `do_sendfile`. -/
structure Statics where
  sendfileChecked : Bool := false
  runtimeSendfileWorks : Bool := false
  pRecvbuf : ArrayPtr Unit := ArrayPtr.null
  mem : Mem Unit := fun _ _ => 0

/-- A call that was interrupted is made again. -/
def sendfileLoop (file : Bytes) (numSend : Nat) : List SendAnswer → Wire → SendAnswer × Wire
  | .error .eintr :: rest, io => sendfileLoop file numSend rest io
  | sends, io => { io with sends := sends }.sendfile file numSend

/-- The first answer settles whether the call is there at all. -/
def Statics.check (st : Statics) (answer : SendAnswer) : Statics :=
  if st.sendfileChecked then st
  else { st with
    sendfileChecked := true
    runtimeSendfileWorks := st.runtimeSendfileWorks || answer ≠ .error .enosys }

/-- What is returned for the answer, if the code does not go on behind it. -/
def Statics.returned (st : Statics) : SendAnswer → Option Int
  | .sent n => some n
  | .error e =>
    if st.runtimeSendfileWorks ∧ e ≠ .einval ∧ e ≠ .eopnotsupp then some (-1) else none

/-- The first branch. -/
def trySendfile (useSendfile : Bool) (file : Bytes) (numSend : Nat) (st : Statics) (io : Wire) :
    Option Int × Statics × Wire :=
  if useSendfile ∧ (¬ st.sendfileChecked ∨ st.runtimeSendfileWorks) then
    let (answer, io) := sendfileLoop file numSend io.sends io
    let st := st.check answer
    (st.returned answer, st, io)
  else (none, st, io)

def vsfSysutilWriteLoop : Nat → Bytes → Nat → Wire → Except Stop (Int × Wire)
  | 0, _, _, _ => .error .fuel
  | fuel + 1, bs, numWritten, io =>
    match io.write bs with
    | (none, io) => .ok (-1, io)
    | (some retval, io) =>
      if retval = 0 then .ok (numWritten, io)
      else if retval > bs.length then .error (.bug "retval too big in vsf_sysutil_write_loop")
      else if retval = bs.length then .ok ((numWritten + retval : Nat), io)
      else vsfSysutilWriteLoop fuel (bs.drop retval) (numWritten + retval) io

/-- The `while (1)` of the second branch. -/
def fallbackLoop (file : Bytes) (pRecvbuf : ArrayPtr Unit) :
    Nat → Nat → Nat → Mem Unit → Wire → Except Stop (Int × Mem Unit × Wire)
  | 0, _, _, _, _ => .error .fuel
  | fuel + 1, numSend, totalWritten, mem, io => do
    let numReadThisTime := min vsftpDataBufsize numSend
    let tmp ← cast pRecvbuf numReadThisTime
    match io.read file numReadThisTime with
    | (none, io) => return (-1, mem, io)
    | (some bs, io) =>
      let mem := tmp.fill bs mem
      let numRead := bs.length
      if numRead = 0 then
        return (-1, mem, io)
      let tmp ← cast pRecvbuf numRead
      let (retval, io) ← vsfSysutilWriteLoop (numRead + 1) (tmp.bytes numRead mem) 0 io
      if retval < 0 then
        return (retval, mem, io)
      let numWritten := retval.toNat
      let totalWritten := totalWritten + numWritten
      if numWritten ≠ numRead then
        return (numWritten, mem, io)
      if numWritten > numSend then
        .error (.bug "num_written bigger than num_send in do_sendfile")
      if numSend - numWritten = 0 then
        return (totalWritten, mem, io)
      fallbackLoop file pRecvbuf fuel (numSend - numWritten) totalWritten mem io

/-- The buffer is allocated with `VSFTP_DATA_BUFSIZE` bytes, and `p_recvbuf` is declared
with `count(65537)`. -/
def allocRecvbuf (st : Statics) : Except Stop (ArrayPtr Unit) :=
  if st.pRecvbuf.addr = none then cast (ArrayPtr.start () vsftpDataBufsize) 65537
  else .ok st.pRecvbuf

def doSendfile (useSendfile : Bool) (file : Bytes) (numSend : Nat) (st : Statics) (io : Wire) :
    Except Stop (Int × Statics × Wire) :=
  match trySendfile useSendfile file numSend st io with
  | (some retval, st, io) => .ok (retval, st, io)
  | (none, st, io) => do
    let pRecvbuf ← allocRecvbuf st
    let (retval, mem, io) ← fallbackLoop file pRecvbuf (numSend + 1) numSend 0 st.mem io
    return (retval, { st with pRecvbuf := pRecvbuf, mem := mem }, io)

/-! ## The transfer -/

/-- What remains to be sent gets less with every turn that goes on. -/
def sendLoop (useSendfile : Bool) (file : Bytes) (maxChunk : Nat) :
    Nat → Nat → Nat → Statics → Wire → Except Stop (Int × Nat × Statics × Wire)
  | fuel, numSend, offset, st, io =>
    if numSend = 0 then .ok (0, offset, st, io)
    else
      match fuel with
      | 0 => .error .fuel
      | fuel + 1 => do
        let sendThisTime := if numSend > maxChunk then maxChunk else numSend
        let (retval, st, io) ← doSendfile useSendfile file sendThisTime st { io with pos := offset }
        if retval ≤ 0 then
          return (retval, offset, st, io)
        sendLoop useSendfile file maxChunk fuel (numSend - retval.toNat) (offset + retval.toNat)
          st io

def vsfSysutilSendfile (useSendfile : Bool) (file : Bytes) (offset numSend maxChunk : Nat)
    (st : Statics) (io : Wire) : Except Stop (Int × Nat × Statics × Wire) :=
  sendLoop useSendfile file (if maxChunk = 0 then intMax else maxChunk) numSend numSend offset
    st io

/-- The configuration of a transfer. -/
structure Config where
  tunableUseSendfile : Bool := true
  tunableTransChunkSize : Nat := 0
  bwRateMax : Nat := 0
  deriving DecidableEq, Repr

def Config.chunkSize (c : Config) : Nat :=
  if c.bwRateMax ≠ 0 then getChunkSize c.tunableTransChunkSize else 0

def doFileSendSendfile (c : Config) (file : Bytes) (currFileOffset bytesToSend : Nat)
    (st : Statics) (io : Wire) : Except Stop (TransferRet × Statics × Wire) := do
  let (retval, offset, st, io) ←
    vsfSysutilSendfile c.tunableUseSendfile file currFileOffset bytesToSend c.chunkSize st io
  let bytesSent := offset - currFileOffset
  let ret : TransferRet := { transferred := bytesSent }
  if retval < 0 then
    return ({ ret with retval := -2 }, st, io)
  else if bytesSent ≠ bytesToSend then
    return ({ ret with retval := -2 }, st, io)
  else return (ret, st, io)

/-- From the size of the file. -/
def calcNumSend (file : Bytes) (initOffset : Nat) : Nat :=
  if initOffset > file.length then 0 else file.length - initOffset

/-- The static variables after any number of earlier transfers. -/
inductive Statics.Reachable : Statics → Prop
  | init : Reachable {}
  | send {st st' : Statics} {c : Config} {file : Bytes} {offset : Nat} {io io' : Wire}
      {ret : TransferRet} (hst : Reachable st)
      (hrun : doFileSendSendfile c file offset (calcNumSend file offset) st io =
        .ok (ret, st', io')) :
      Reachable st'

end Vsftpd.FtpDataIo.Sendfile
