import Vsftpd.Lib.Duplex
import Vsftpd.Session.PrivSock
import Vsftpd.Ssl.Direct

/-!
# The SSL slave

`sslslave.c`, and what the session does instead when the slave has the SSL objects.  The
two are the ends of a socket; a message on it is what one call of a sending function
writes, and is to be read by the function that belongs to it.
-/

namespace Vsftpd.Ssl

open Vsftpd.Lib.Duplex Vsftpd.Session

/-! ## Messages -/

inductive Msg where
  | cmd (c : UInt8)
  | result (c : UInt8)
  | int (n : Int)
  | bytes (bs : Bytes)
  | fd (fd : Nat)
  deriving DecidableEq, Repr

abbrev Talk := Code Msg Halt

def privSockGetUserCmd : UInt8 := 4
def privSockWriteUserResp : UInt8 := 5
def privSockDoSslHandshake : UInt8 := 6
def privSockDoSslClose : UInt8 := 7
def privSockDoSslRead : UInt8 := 8
def privSockDoSslWrite : UInt8 := 9

def vsftpPrivsockMaxstr : Nat := vsftpDataBufsize * 2

/-- An `int` as an `unsigned int`. -/
def unsignedInt (n : Int) : Nat := (n % 2 ^ 32).toNat

def sendCmd (c : UInt8) : Talk Unit := .send (.cmd c) (.next ())

def sendResult (c : UInt8) : Talk Unit := .send (.result c) (.next ())

def sendInt (n : Int) : Talk Unit := .send (.int n) (.next ())

def sendFd (fd : Nat) : Talk Unit := .send (.fd fd) (.next ())

/-- `priv_sock_send_str` and `priv_sock_send_buf` -/
def sendStr (text : Bytes) : Talk Unit := do
  sendInt text.length
  if text.length > 0 then .send (.bytes text) (.next ()) else pure ()

def getCmd : Talk UInt8 :=
  .recv (fun | .cmd c => .next c | _ => .halt .mismatch) (.die "priv_sock_get_cmd")

def getResult : Talk UInt8 :=
  .recv (fun | .result c => .next c | _ => .halt .mismatch) (.die "priv_sock_get_result")

def getInt : Talk Int :=
  .recv (fun | .int n => .next n | _ => .halt .mismatch) (.die "priv_sock_get_int")

def recvFd : Talk Nat :=
  .recv (fun | .fd fd => .next fd | _ => .halt .mismatch) (.die "recvmsg")

/-- The read of `len` bytes. -/
def readBytes (len : Nat) (failure : String) : Talk Bytes :=
  .recv (fun m =>
    match m with
    | .bytes bs => if bs.length = len then .next bs else .halt .mismatch
    | _ => .halt .mismatch) (.die failure)

def getStr : Talk Bytes := do
  let n ← getInt
  if unsignedInt n > vsftpPrivsockMaxstr then .halt (.die "priv_sock_get_str: too big")
  else if unsignedInt n > 0 then readBytes (unsignedInt n) "priv_sock_get_str: read error"
  else pure []

def recvBuf (len : Nat) : Talk Bytes := do
  let n ← getInt
  if unsignedInt n > len then .halt (.bug "recv_len bigger than buffer")
  else if unsignedInt n > 0 then readBytes (unsignedInt n) "priv_sock_recv_buf"
  else pure []

/-! ## The session -/

/-- `ftp_getline`, `ftp_write_str`, `ftp_write_data`, `ftp_read_data`, and the parts of
`vsf_ftpdataio_post_mark_connect` and `vsf_ftpdataio_dispose_transfer_fd`. -/
def consumerOp (op : Op) (ftpCmdStr : Bytes) : Talk (Out × Bytes) :=
  match op with
  | .getline => do
    sendCmd privSockGetUserCmd
    let ret ← getInt
    if ret ≥ 0 then do
      let text ← getStr
      pure (.line ret text, text)
    else pure (.line ret ftpCmdStr, ftpCmdStr)
  | .writeControl text => do
    sendCmd privSockWriteUserResp
    sendStr text
    let ret ← getInt
    pure (.written ret, ftpCmdStr)
  | .writeStr text => do
    sendCmd privSockDoSslWrite
    sendStr text
    let written ← getInt
    pure (.written (if written > 0 ∧ written = text.length then 0 else -1), ftpCmdStr)
  | .writeData buf => do
    sendCmd privSockDoSslWrite
    sendStr buf
    let ret ← getInt
    pure (.written ret, ftpCmdStr)
  | .readData len => do
    sendCmd privSockDoSslRead
    sendInt len
    let ret ← getInt
    let buf ← recvBuf len
    pure (.read ret buf, ftpCmdStr)
  | .handshake dataFd => do
    sendCmd privSockDoSslHandshake
    sendFd dataFd
    let res ← getResult
    pure (.connected (res = privSockResultOk), ftpCmdStr)
  | .close => do
    sendCmd privSockDoSslClose
    let res ← getResult
    pure (.disposed (res = privSockResultOk), ftpCmdStr)

/-- What a session has still to do, and what came of the rest. -/
structure Consumer where
  ops : List Op
  ftpCmdStr : Bytes
  outs : List Out

def consumerTurn (s : Consumer) : Talk Consumer :=
  match s.ops with
  | [] => .stop
  | op :: rest => do
    let (out, text) ← consumerOp op s.ftpCmdStr
    pure ⟨rest, text, s.outs ++ [out]⟩

/-! ## The slave -/

structure Slave (σ : Type) where
  side : SslSide σ
  /-- None is -1. -/
  dataFd : Option Nat := none
  ftpCmdStr : Bytes := []
  dataStr : Bytes := []
  /-- `alloc_bytes` of `data_str` -/
  dataAlloc : Nat := vsftpDataBufsize + 1

section
variable {σ : Type} (lib : SslLib σ) (cfg : SslConfig)

def slaveGetline (s : Slave σ) : Talk (Slave σ) :=
  match ftpGetline lib cfg s.side with
  | .error h => .halt h
  | .ok (ret, text, side) => do
    sendInt ret
    if ret ≥ 0 then sendStr text else pure ()
    pure { s with side := side, ftpCmdStr := text }

def slaveWriteResp (s : Slave σ) : Talk (Slave σ) := do
  let text ← getStr
  let (ret, l) := sslWriteStr lib .control text s.side.lib
  sendInt ret
  pure { s with side := { s.side with lib := l }, ftpCmdStr := text }

def slaveHandshake (s : Slave σ) : Talk (Slave σ) :=
  if s.dataFd ≠ none ∨ s.side.dataSsl = true then .halt (.bug "state not clean")
  else do
    let dataFd ← recvFd
    match sslAccept lib cfg dataFd s.side with
    | .error h => .halt h
    | .ok (true, side) => do
      sendResult privSockResultOk
      pure { s with side := side, dataFd := some dataFd }
    | .ok (false, side) => do
      sendResult privSockResultBad
      pure { s with side := side, dataFd := none }

/-- The data connection is not there. -/
def Slave.lacksData (s : Slave σ) : Bool := s.dataFd = none || !s.side.dataSsl

def slaveRead (s : Slave σ) : Talk (Slave σ) := do
  let size ← getInt
  if size ≤ 0 ∨ size > vsftpDataBufsize then .halt (.bug "bad size")
  else if s.lacksData then .halt (.bug "invalid state")
  else if unsignedInt size ≥ s.dataAlloc then
    .halt (.bug "trunc_len not smaller than alloc_bytes in str_trunc")
  else do
    let res := sslRead lib cfg .data (unsignedInt size) s.side.lib
    let text := if res.retval ≥ 0 then res.data else []
    sendInt res.retval
    sendStr text
    pure { s with side := { s.side with lib := res.sess }, dataStr := text }

def slaveWrite (s : Slave σ) : Talk (Slave σ) :=
  if s.lacksData then .halt (.bug "invalid state")
  else do
    let text ← getStr
    let (ret, l) := lib.sslWrite .data text s.side.lib
    sendInt ret
    pure { s with
      side := { s.side with lib := l }
      dataStr := text
      dataAlloc := max s.dataAlloc (text.length + 1) }

def slaveClose (s : Slave σ) : Talk (Slave σ) :=
  if s.dataFd = none ∧ s.side.dataSsl = false then do
    sendResult privSockResultOk
    pure s
  else if s.lacksData then .halt (.bug "invalid state")
  else do
    let (ok, side) := sslDataClose lib cfg s.side
    sendResult (if ok then privSockResultOk else privSockResultBad)
    pure { s with side := side, dataFd := none }

/-- One turn of the loop of `ssl_slave`. -/
def slaveTurn (s : Slave σ) : Talk (Slave σ) := do
  let cmd ← getCmd
  if cmd = privSockGetUserCmd then slaveGetline lib cfg s
  else if cmd = privSockWriteUserResp then slaveWriteResp lib s
  else if cmd = privSockDoSslHandshake then slaveHandshake lib cfg s
  else if cmd = privSockDoSslRead then slaveRead lib cfg s
  else if cmd = privSockDoSslWrite then slaveWrite lib s
  else if cmd = privSockDoSslClose then slaveClose lib cfg s
  else .halt (.die "bad request in process_ssl_slave_req")

end

end Vsftpd.Ssl
