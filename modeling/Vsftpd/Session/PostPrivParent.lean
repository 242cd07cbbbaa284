import Vsftpd.Session.PrivOps

/-!
# The privileged parent after login

`postprivparent.c`.  No signal handler of the parent does more than end it, so its
check for pending actions does nothing.
-/

namespace Vsftpd.Session

open Vsftpd.Lib

variable {W : Type} (cfg : Tunables) (k : Kernel W)

def noPending : M W Unit := pure ()

def cmdProcessChown : M W Unit := do
  let theFd ← privSockRecvFd k .parent
  vsfPrivopDoFileChown k .parent theFd
  vsfSysutilClose k noPending theFd
  privSockSendResult k .parent privSockResultOk

def cmdProcessGetDataSock : M W Unit := do
  let n ← privSockGetInt .parent
  -- the cast to `unsigned short`
  let port := UInt16.ofNat (n % 2 ^ 16).toNat
  let sockFd ← vsfPrivopGetFtpPortSock cfg k noPending .parent port false
  if sockFd = -1 then privSockSendResult k .parent privSockResultBad
  else do
    privSockSendResult k .parent privSockResultOk
    privSockSendFd k .parent sockFd
    vsfSysutilClose k noPending sockFd

def cmdProcessPasvCleanup : M W Unit := do
  vsfPrivopPasvCleanup k noPending .parent
  privSockSendResult k .parent privSockResultOk

def cmdProcessPasvActive : M W Unit := do
  let active ← vsfPrivopPasvActive .parent
  privSockSendInt k .parent (if active then 1 else 0)

def cmdProcessPasvListen : M W Unit := do
  let port ← vsfPrivopPasvListen cfg k noPending .parent
  privSockSendInt k .parent port.toNat

def cmdProcessPasvAccept : M W Unit := do
  let fd ← vsfPrivopAcceptPasv cfg k noPending .parent
  if fd < 0 then do
    privSockSendResult k .parent privSockResultBad
    privSockSendInt k .parent fd
  else do
    privSockSendResult k .parent privSockResultOk
    privSockSendFd k .parent fd
    vsfSysutilClose k noPending fd

def processPostLoginReq : M W Unit := do
  let _ ← sys k .waitRequest
  let cmd ← privSockGetCmd .parent
  if cfg.chownUploads ∧ cmd = privSockChown then cmdProcessChown k
  else if cmd = privSockGetDataSock then cmdProcessGetDataSock cfg k
  else if cmd = privSockPasvCleanup then cmdProcessPasvCleanup k
  else if cmd = privSockPasvActive then cmdProcessPasvActive k
  else if cmd = privSockPasvListen then cmdProcessPasvListen cfg k
  else if cmd = privSockPasvAccept then cmdProcessPasvAccept cfg k
  else die "bad request in process_post_login_req"

end Vsftpd.Session
