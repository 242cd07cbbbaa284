import Vsftpd.Session.FtpCmdIo
import Vsftpd.Session.PostPrivParent

/-!
# Privileged operations from the session

`oneprocess.c` and `twoprocess.c` after login.  With two processes a request is
written to the channel, the parent takes a turn while the session waits, and the
answer is read.
-/

namespace Vsftpd.Session

open Vsftpd.Lib

variable {W : Type} (cfg : Tunables) (k : Kernel W)

/-- The port of the stored PORT address, with what follows. -/
def withPortSockaddr {α : Type} (f : UInt16 → M W α) : M W α := do
  let sess ← getSess .session
  match sess.portSockaddr with
  | none => Prog.halt .trap
  | some addr => f (vsfSysutilSockaddrGetPort addr)

/-! ## `oneprocess.c` -/

def vsfOneProcessGetPrivDataSock : M W Fd :=
  withPortSockaddr fun port =>
    vsfPrivopGetFtpPortSock cfg k (checkPendingActions cfg k) .session port true

def vsfOneProcessPasvCleanup : M W Unit :=
  vsfPrivopPasvCleanup k (checkPendingActions cfg k) .session

def vsfOneProcessPasvActive : M W Bool := vsfPrivopPasvActive .session

def vsfOneProcessListen : M W UInt16 :=
  vsfPrivopPasvListen cfg k (checkPendingActions cfg k) .session

def vsfOneProcessGetPasvFd : M W Fd :=
  vsfPrivopAcceptPasv cfg k (checkPendingActions cfg k) .session

def vsfOneProcessChownUpload (fd : Fd) : M W Unit := vsfPrivopDoFileChown k .session fd

/-! ## `twoprocess.c` -/

def setTurn (p : Proc) : M W Unit := Prog.modify fun s => { s with turn := p }

def parentTurn : M W Unit := do
  setTurn .parent
  processPostLoginReq cfg k
  setTurn .session

def requestCmd (cmd : UInt8) : M W Unit := do
  privSockSendCmd k .session cmd
  checkPendingActions cfg k

def replyResult : M W UInt8 := do
  let res ← privSockGetResult .session
  checkPendingActions cfg k
  pure res

def replyInt : M W Int := do
  let n ← privSockGetInt .session
  checkPendingActions cfg k
  pure n

def vsfTwoProcessGetPrivDataSock : M W Fd :=
  withPortSockaddr fun port => do
    requestCmd cfg k privSockGetDataSock
    privSockSendInt k .session port.toNat
    checkPendingActions cfg k
    parentTurn cfg k
    let res ← replyResult cfg k
    if res = privSockResultBad then pure (-1)
    else if res ≠ privSockResultOk then die "could not get privileged socket"
    else privSockRecvFd k .session

def vsfTwoProcessPasvCleanup : M W Unit := do
  requestCmd cfg k privSockPasvCleanup
  parentTurn cfg k
  let res ← replyResult cfg k
  if res ≠ privSockResultOk then die "could not clean up socket" else pure ()

def vsfTwoProcessPasvActive : M W Bool := do
  requestCmd cfg k privSockPasvActive
  parentTurn cfg k
  let active ← replyInt cfg k
  pure (active ≠ 0)

def vsfTwoProcessListen : M W UInt16 := do
  requestCmd cfg k privSockPasvListen
  parentTurn cfg k
  let port ← replyInt cfg k
  pure (UInt16.ofNat (port % 2 ^ 16).toNat)

def vsfTwoProcessGetPasvFd : M W Fd := do
  requestCmd cfg k privSockPasvAccept
  parentTurn cfg k
  let res ← replyResult cfg k
  if res = privSockResultBad then replyInt cfg k
  else if res ≠ privSockResultOk then die "could not accept on listening socket"
  else privSockRecvFd k .session

def vsfTwoProcessChownUpload (fd : Fd) : M W Unit := do
  requestCmd cfg k privSockChown
  privSockSendFd k .session fd
  parentTurn cfg k
  let res ← replyResult cfg k
  if res ≠ privSockResultOk then die "unexpected failure in vsf_two_process_chown_upload"
  else pure ()

/-! ## The choice between them -/

def getPrivDataSock : M W Fd :=
  if cfg.oneProcessModel ∨ cfg.portPromiscuous then vsfOneProcessGetPrivDataSock cfg k
  else vsfTwoProcessGetPrivDataSock cfg k

def pasvCleanup : M W Unit :=
  if cfg.oneProcessModel then vsfOneProcessPasvCleanup cfg k else vsfTwoProcessPasvCleanup cfg k

def askPasvActive : M W Bool :=
  if cfg.oneProcessModel then vsfOneProcessPasvActive else vsfTwoProcessPasvActive cfg k

def listenPasv : M W UInt16 :=
  if cfg.oneProcessModel then vsfOneProcessListen cfg k else vsfTwoProcessListen cfg k

def acceptPasv : M W Fd :=
  if cfg.oneProcessModel then vsfOneProcessGetPasvFd cfg k else vsfTwoProcessGetPasvFd cfg k

def chownUpload (fd : Fd) : M W Unit :=
  if cfg.oneProcessModel then vsfOneProcessChownUpload k fd
  else vsfTwoProcessChownUpload cfg k fd

end Vsftpd.Session
