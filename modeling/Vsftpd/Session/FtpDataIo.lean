import Vsftpd.Session.TwoProcess

/-!
# The data connection

The first half of `ftpdataio.c`: getting a data connection and disposing of it.
What then moves over it is one call here.
-/

namespace Vsftpd.Session

open Vsftpd.Lib

variable {W : Type} (cfg : Tunables) (k : Kernel W)

def setInDataSetup (b : Bool) : M W Unit := Prog.modify fun s => { s with inDataSetup := b }

def vsfSysutilInstallIoHandler : M W Unit := do
  let s ← Prog.get
  if s.ioHandler then bug "double register of i/o handler"
  else Prog.modify fun s => { s with ioHandler := true }

def vsfSysutilUninstallIoHandler : M W Unit := do
  let s ← Prog.get
  if !s.ioHandler then bug "no i/o handler to unregister!"
  else Prog.modify fun s => { s with ioHandler := false }

def setDataFd (fd : Fd) : M W Unit := updateSession fun sess => { sess with dataFd := fd }

/-- A socket option that has to be set. -/
def activateOption (fd : Fd) (failure : String) : M W Unit := do
  let ok ← sys k (.setsockopt fd)
  if ok then pure () else die failure

def initDataSockParams (sockFd : Fd) : M W Unit := do
  setInDataSetup true
  let sess ← getSess .session
  if sess.dataFd ≠ -1 then bug "data descriptor still present in init_data_sock_params"
  else do
    setDataFd sockFd
    updateSession fun sess => { sess with dataProgress := false }
    activateOption k sockFd "setsockopt: keepalive"
    let _ ← sys k (.setsockopt sockFd)
    vsfSysutilInstallIoHandler
    startDataAlarm cfg
    setInDataSetup false

/-- `priv_sock_get_result` on the answer of the slave. -/
def slaveResult (res : Option UInt8) : M W Bool :=
  match res with
  | none => die "priv_sock_get_result"
  | some r => pure (r = privSockResultOk)

def privSockDoSslHandshake : UInt8 := 6
def privSockDoSslClose : UInt8 := 7

/-- The end of the encrypted channel, when there is one. -/
def closeDataSsl (sess : VsfSession) : M W Bool :=
  if sess.dataUseSsl ∧ sess.sslSlaveActive then do
    startDataAlarm cfg
    let res ← sys k (.sslSlave privSockDoSslClose)
    checkPendingActions cfg k
    slaveResult res
  else if sess.dataSsl then do
    startDataAlarm cfg
    let ok ← sys k (.sslClose sess.dataFd)
    checkPendingActions cfg k
    updateSession fun sess => { sess with dataSsl := false }
    pure ok
  else pure true

/-- The second try to close does not linger. -/
def closeDataFd (fd : Fd) : M W Unit := do
  let ok ← sys k (.close fd)
  Prog.whenever (ok = false) (do
    let _ ← sys k (.setsockopt fd)
    let _ ← sys k (.close fd)
    pure ())
  modifySock fd fun _ => {}

def vsfFtpdataioDisposeTransferFd : M W Bool := do
  setInDataSetup true
  let before ← getSess .session
  if before.dataFd = -1 then bug "no data descriptor in vsf_ftpdataio_dispose_transfer_fd"
  else do
    vsfSysutilUninstallIoHandler
    let closed ← closeDataSsl cfg k before
    let sess ← getSess .session
    Prog.whenever (sess.aborReceived = false ∧ sess.dataTimeout = false ∧ closed = true) (do
      startDataAlarm cfg
      activateOption k sess.dataFd "setsockopt: linger")
    closeDataFd k sess.dataFd
    setDataFd (-1)
    setInDataSetup false
    pure (closed && !sess.aborReceived && !sess.dataTimeout)

def vsfFtpdataioGetPasvFd : M W Fd := do
  let remoteFd ← acceptPasv cfg k
  if remoteFd = -1 then do
    vsfCmdioWrite cfg k 425 "Failed to establish connection."
    pure remoteFd
  else if remoteFd = -2 then do
    vsfCmdioWrite cfg k 425 "Security: Bad IP connecting."
    pure (-1)
  else do
    initDataSockParams cfg k remoteFd
    pure remoteFd

def vsfFtpdataioGetPortFd : M W Fd := do
  let remoteFd ← getPrivDataSock cfg k
  if remoteFd < 0 then do
    vsfCmdioWrite cfg k 425 "Failed to establish connection."
    pure (-1)
  else do
    initDataSockParams cfg k remoteFd
    pure remoteFd

/-- The handshake, in this process or by the slave. -/
def acceptDataSsl (sess : VsfSession) : M W Bool :=
  if !sess.sslSlaveActive then
    if sess.dataSsl then die "p_data_ssl should be NULL."
    else do
      let ok ← sys k (.sslHandshake sess.dataFd)
      checkPendingActions cfg k
      updateSession fun sess => { sess with dataSsl := ok }
      pure ok
  else do
    let sent ← sys k (.sendFd sess.dataFd)
    if sent then do
      let res ← sys k (.sslSlave privSockDoSslHandshake)
      checkPendingActions cfg k
      slaveResult res
    else die "sendmsg"

def vsfFtpdataioPostMarkConnect : M W Bool := do
  let sess ← getSess .session
  if !sess.dataUseSsl then pure true
  else do
    let ok ← acceptDataSsl cfg k sess
    if ok then pure true
    else if cfg.requireSslReuse then
      vsfCmdioWriteExit cfg k 522 "SSL connection failed: session reuse required" 1
    else do
      vsfCmdioWrite cfg k 522 "SSL connection failed"
      pure false

def vsfFtpdataioTransferFile (remoteFd fileFd : Fd) (isRecv isAscii : Bool) :
    M W VsfTransferRet := do
  let ret ← sys k (.transferFile remoteFd fileFd isRecv isAscii)
  checkPendingActions cfg k
  match ret with
  | none => Prog.halt .trap
  | some ret => pure ret

def vsfFtpdataioTransferDir (fd : Fd) (dir option filter : Bytes) (isControl fullDetails : Bool) :
    M W Int := do
  let ret ← sys k (.transferDir fd dir option filter isControl fullDetails)
  checkPendingActions cfg k
  pure ret

end Vsftpd.Session
