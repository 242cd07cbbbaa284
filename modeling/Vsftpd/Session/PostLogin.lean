import Vsftpd.IpAddrParse
import Vsftpd.Session.FtpDataIo

/-!
# The command handlers

`postlogin.c`, without its loop and without the HTTP mode.
-/

namespace Vsftpd.Session

open Vsftpd.Lib

variable {W : Type} (cfg : Tunables) (k : Kernel W)

/-! ## Names -/

/-- `resolve_tilde` -/
def resolveTilde (home : Bytes) (getpwnam : Bytes → Option Bytes) (path : Bytes) : Bytes :=
  match path with
  | 126 :: rest =>
    if rest = [] ∨ rest.head? = some slash then home ++ rest
    else if cfg.tildeUserEnable then
      let user := strSplitChar rest slash
      match getpwnam user.1 with
      | none => path
      | some dir => if strIsempty user.2 then dir else dir ++ [slash] ++ user.2
    else path
  | _ => path

def prependPathToFilename (cwd path : Bytes) : Bytes :=
  if path.head? = some slash then path
  else if cwd.getLast? = some slash then cwd ++ path
  else cwd ++ [slash] ++ path

/-- `resolve_tilde` on a name, where the process is. -/
def resolveName (s : State W) (path : Bytes) : Bytes :=
  resolveTilde cfg s.session.homeStr (k.getpwnamHomedir s.world) path

def fullName (s : State W) (path : Bytes) : Bytes :=
  prependPathToFilename (k.pathEnv s.world).getcwd path

def resolveArg : M W Unit := do
  let s ← Prog.get
  updateSession fun sess => { sess with ftpArgStr := resolveName cfg k s sess.ftpArgStr }

/-- The argument becomes the text of the log entry. -/
def logArg : M W Unit := do
  let s ← Prog.get
  setLogStr (fullName k s s.session.ftpArgStr)

/-- `vsf_access_check_file` in a state. -/
def checkFile (s : State W) (path : Bytes) : Bool :=
  vsfAccessCheckFile (k.pathEnv s.world) cfg.denyFile path

def checkFileUpload (s : State W) (path : Bytes) : Bool :=
  vsfAccessCheckFileUpload (k.pathEnv s.world) cfg.uploadFile path

def checkFileDownload (s : State W) (path : Bytes) : Bool :=
  vsfAccessCheckFileDownload (k.pathEnv s.world) cfg.downloadFile path

def noPermission : M W Unit := vsfCmdioWrite cfg k 550 "Permission denied."

/-! ## Files -/

/-- The new descriptor, -1 for a failure. -/
def openFile (file : OpenFile) : M W Fd := do
  let s ← Prog.get
  let ok ← sys k (.open s.nextFd file)
  if ok then do
    let fd ← newFd
    Prog.modify fun s => { s with files := Function.update s.files fd (some file) }
    pure fd
  else pure (-1)

def strOpen (path : Bytes) : M W Fd := openFile k ⟨.read, path, 0⟩

def strCreateExclusive (path : Bytes) : M W Fd := openFile k ⟨.exclusive, path, cfg.fileOpenMode⟩

def strCreate (path : Bytes) : M W Fd := openFile k ⟨.create, path, cfg.fileOpenMode⟩

/-- An open directory is known by its descriptor. -/
def strOpendir (path : Bytes) : M W (Option Fd) := do
  let s ← Prog.get
  let ok ← sys k (.opendir s.nextFd path)
  if ok then do
    let fd ← newFd
    pure (some fd)
  else pure none

def vsfSysutilClosedir (fd : Fd) : M W Unit := do
  let ok ← sys k (.close fd)
  if ok then pure () else die "closedir"

def closeFile (fd : Fd) : M W Unit := vsfSysutilClose k (checkPendingActions cfg k) fd

def lockFile (fd : Fd) (write : Bool) : M W Unit := do
  let _ ← sys k (.fcntlLock fd write)
  checkPendingActions cfg k

def vsfSysutilDeactivateNoblock (fd : Fd) : M W Unit := vsfSysutilActivateNoblock k fd

def vsfSysutilLseekTo (fd : Fd) (pos : Int) : M W Unit :=
  if pos < 0 then die "negative seek_pos in vsf_sysutil_lseek_to"
  else do
    let ok ← sys k (.lseek fd pos)
    if ok then pure () else die "lseek"

def vsfSysutilLseekEnd (fd : Fd) : M W Unit := do
  let ok ← sys k (.lseekEnd fd)
  if ok then pure () else die "lseek"

def vsfSysutilFtruncate (fd : Fd) : M W Unit := do
  let ok ← sys k (.ftruncate fd)
  if ok then pure () else die "ftruncate"

def vsfSysutilFchmod (fd : Fd) (mode : Nat) : M W Unit := do
  let ok ← sys k (.fchmod fd (mode % 0o1000))
  if ok then pure () else die "fchmod"

/-- `vsf_sysutil_fstat`, then what is done with the answer. -/
def withFstat {α : Type} (fd : Fd) (f : Statbuf → M W α) : M W α := do
  let s ← Prog.get
  match k.fstat s.world fd with
  | none => die "fstat"
  | some statbuf => f statbuf

/-- `vsf_sysutil_statbuf_get_size` -/
def withSize {α : Type} (statbuf : Statbuf) (f : Int → M W α) : M W α :=
  if statbuf.size < 0 then die "invalid inode size in vsf_sysutil_statbuf_get_size"
  else f statbuf.size

/-! ## PORT and PASV -/

mutual

/-- `port_active`, with so many calls left. -/
def portActive : Nat → M W Bool
  | 0 => Prog.halt .recursion
  | depth + 1 => do
    let sess ← getSess .session
    if sess.portSockaddr.isNone then pure false
    else do
      let pasv ← pasvActive depth
      if pasv then bug "port and pasv both active" else pure true

def pasvActive : Nat → M W Bool
  | 0 => Prog.halt .recursion
  | depth + 1 => do
    let active ← askPasvActive cfg k
    if active then do
      let port ← portActive depth
      if port then bug "pasv and port both active" else pure true
    else pure false

end

/-- More calls than the stack ever holds when not both are active. -/
def activeDepth : Nat := 8

def portCleanup : M W Unit := updateSession fun sess => { sess with portSockaddr := none }

/-- `pasv_active(p_sess) || port_active(p_sess)` -/
def anyActive : M W Bool := do
  let pasv ← pasvActive cfg k activeDepth
  if pasv then pure true else portActive cfg k activeDepth

def needsEncryption (sess : VsfSession) : Bool :=
  cfg.sslEnable && !sess.dataUseSsl &&
    (cfg.forceLocalDataSsl && !sess.isAnonymous || cfg.forceAnonDataSsl && sess.isAnonymous)

def dataTransferChecksOk : M W Bool := do
  let active ← anyActive cfg k
  let sess ← getSess .session
  if !active then do
    vsfCmdioWrite cfg k 425 "Use PORT or PASV first."
    pure false
  else if needsEncryption cfg sess then do
    vsfCmdioWrite cfg k 522 "Data connections must be encrypted."
    pure false
  else pure true

def getTransferFd (pasv : Bool) : M W Fd :=
  if pasv then vsfFtpdataioGetPasvFd cfg k else vsfFtpdataioGetPortFd cfg k

def getRemoteTransferFd (statusMsg : Bytes) : M W Fd := do
  let active ← anyActive cfg k
  if !active then bug "neither PORT nor PASV active in get_remote_transfer_fd"
  else do
    updateSession fun sess => { sess with aborReceived := false }
    let pasv ← pasvActive cfg k activeDepth
    let remoteFd ← getTransferFd cfg k pasv
    if remoteFd < 0 then pure remoteFd
    else do
      vsfCmdioWriteStr cfg k 150 (cString statusMsg)
      let ok ← vsfFtpdataioPostMarkConnect cfg k
      if ok then pure remoteFd
      else do
        let _ ← vsfFtpdataioDisposeTransferFd cfg k
        pure (-1)

def checkAbor : M W Unit := do
  let sess ← getSess .session
  if sess.aborReceived then do
    updateSession fun sess => { sess with aborReceived := false }
    vsfCmdioWrite cfg k 226 "ABOR successful."
  else pure ()

/-- The address of a PORT or EPRT command is stored, if it passes the check. -/
def storePortSockaddr (addr : SockAddr) (illegal success : String) : M W Unit := do
  updateSession fun sess => { sess with portSockaddr := some addr }
  let sess ← getSess .session
  if !cfg.portPromiscuous ∧
      (!vsfSysutilSockaddrAddrEqual sess.remoteAddr addr ∨
        vsfSysutilIsPortReserved (vsfSysutilSockaddrGetPort addr)) then do
    vsfCmdioWrite cfg k 500 illegal
    portCleanup
  else vsfCmdioWrite cfg k 200 success

/-- The address and the port of the six numbers. -/
def portArgument : Option Bytes → Option (InAddr × UInt16)
  | some [a, b, c, d, hi, lo] =>
      some (⟨[a, b, c, d], rfl⟩, UInt16.ofNat (hi.toNat * 256 + lo.toNat))
  | _ => none

def handlePort : M W Unit := do
  pasvCleanup cfg k
  portCleanup
  let sess ← getSess .session
  match portArgument (vsfSysutilParseUcharStringSep sess.ftpArgStr comma 6) with
  | none => vsfCmdioWrite cfg k 500 "Illegal PORT command."
  | some (addr, port) =>
    storePortSockaddr cfg k
      (vsfSysutilSockaddrSetPort
        (vsfSysutilSockaddrSetIpv4addr (vsfSysutilSockaddrClone sess.localAddr) addr) port)
      "Illegal PORT command." "PORT command successful. Consider using PASV."

inductive EprtAddr where
  | ipv4 (addr : InAddr)
  | ipv6 (addr : In6Addr)

inductive EprtArg where
  | bad
  | badProtocol
  | endpoint (addr : EprtAddr) (port : UInt16)

def bar : UInt8 := 124

def parseEprtAddr (proto : Int) (text : Bytes) : Except Unit (Option EprtAddr) :=
  if proto = 2 then
    (vsfSysutilParseIpv6 (strSplitChar text 37).1).map fun addr => addr.map .ipv6
  else .ok ((vsfSysutilParseIpv4 text).map .ipv4)

/-- The parts of `|proto|address|port|`. -/
def parseEprt (isIpv6 : Bool) (arg : Bytes) : Except Unit EprtArg :=
  let start := strSplitChar arg bar
  if ¬ strIsempty start.1 then .ok .bad
  else
    let protoField := strSplitChar start.2 bar
    let proto := strAtoi protoField.1
    if proto < 1 ∨ proto > 2 ∨ (!isIpv6 ∧ proto = 2) then .ok .badProtocol
    else
      let addrField := strSplitChar protoField.2 bar
      match parseEprtAddr proto addrField.1 with
      | .error e => .error e
      | .ok none => .ok .bad
      | .ok (some addr) =>
        let portField := strSplitChar addrField.2 bar
        let port := strAtoi portField.1
        if ¬ strIsempty portField.2 ∨ strIsempty portField.1 then .ok .bad
        else if port < 0 ∨ port > 65535 then .ok .bad
        else .ok (.endpoint addr (UInt16.ofNat port.toNat))

def eprtSockaddr (localAddr : SockAddr) (addr : EprtAddr) (port : UInt16) : Option SockAddr :=
  let base := vsfSysutilSockaddrClone localAddr
  match addr with
  | .ipv4 a => some (vsfSysutilSockaddrSetPort (vsfSysutilSockaddrSetIpv4addr base a) port)
  | .ipv6 a =>
    (vsfSysutilSockaddrSetIpv6addr base a).map fun p => vsfSysutilSockaddrSetPort p port

def handleEprt : M W Unit := do
  portCleanup
  pasvCleanup cfg k
  let sess ← getSess .session
  match parseEprt (vsfSysutilSockaddrIsIpv6 sess.localAddr) sess.ftpArgStr with
  | .error () => Prog.halt .trap
  | .ok .bad => vsfCmdioWrite cfg k 500 "Bad EPRT command."
  | .ok .badProtocol => vsfCmdioWrite cfg k 500 "Bad EPRT protocol."
  | .ok (.endpoint addr port) =>
    match eprtSockaddr sess.localAddr addr port with
    | none => bug "bad family"
    | some p =>
      storePortSockaddr cfg k p "Illegal EPRT command."
        "EPRT command successful. Consider using EPSV."

/-- `inet_ntoa(3)` -/
def inetNtoa (a : InAddr) : Bytes :=
  [46].intercalate (a.1.map fun b => vsfSysutilUlongToStr b.toNat)

/-- The address that a 227 reply shows. -/
def shownAddr (isIpv6 : Bool) (p : SockAddr) : Bytes :=
  match isIpv6, p with
  | false, .inet a _ => inetNtoa a
  | false, .inet6 _ _ _ => []
  | true, _ =>
    match vsfSysutilSockaddrIpv6V4 p with
    | some a => inetNtoa a
    | none => bytes "0,0,0,0"

def pasvReply (isIpv6 : Bool) (p : SockAddr) (port : UInt16) : Bytes :=
  strReplaceChar (bytes "Entering Passive Mode (" ++ shownAddr isIpv6 p) 46 comma ++
    bytes "," ++ vsfSysutilUlongToStr (port.toNat / 256) ++
    bytes "," ++ vsfSysutilUlongToStr (port.toNat % 256) ++ bytes ")."

def epsvReply (port : UInt16) : Bytes :=
  bytes "Entering Extended Passive Mode (|||" ++ vsfSysutilUlongToStr port.toNat ++ bytes "|)"

/-- A new listener and the reply that names it. -/
def enterPasv (isEpsv : Bool) : M W Unit := do
  pasvCleanup cfg k
  portCleanup
  let thePort ← listenPasv cfg k
  let sess ← getSess .session
  if isEpsv then vsfCmdioWriteStr cfg k 229 (epsvReply thePort)
  else
    match cfg.pasvAddress with
    | none =>
      vsfCmdioWriteStr cfg k 227 (pasvReply (vsfSysutilSockaddrIsIpv6 sess.localAddr)
        (vsfSysutilSockaddrClone sess.localAddr) thePort)
    | some text =>
      match k.inetAton text with
      | none => die "invalid pasv_address"
      | some a =>
        vsfCmdioWriteStr cfg k 227
          (pasvReply (vsfSysutilSockaddrIsIpv6 sess.localAddr) (.inet a 0) thePort)

def handlePasv (isEpsv : Bool) : M W Unit := do
  let sess ← getSess .session
  if isEpsv ∧ ¬ strIsempty sess.ftpArgStr then do
    let arg := strUpper sess.ftpArgStr
    updateSession fun sess => { sess with ftpArgStr := arg }
    if arg = bytes "ALL" then do
      updateSession fun sess => { sess with epsvAll := true }
      vsfCmdioWrite cfg k 200 "EPSV ALL ok."
    else
      let argval := vsfSysutilAtoi arg
      if argval < 1 ∨ argval > 2 ∨ (!vsfSysutilSockaddrIsIpv6 sess.localAddr ∧ argval = 2) then
        vsfCmdioWrite cfg k 522 "Bad network protocol."
      else enterPasv cfg k isEpsv
  else enterPasv cfg k isEpsv

/-! ## Transfers -/

/-- Both endpoints are given up after a transfer. -/
def portPasvCleanup : M W Unit := do
  portCleanup
  pasvCleanup cfg k

def replyTransfer (retval : Int) (localFailure networkFailure : String) : M W Unit := do
  let sess ← getSess .session
  if retval = -1 then vsfCmdioWrite cfg k 451 localFailure
  else if retval = -2 then
    if sess.dataTimeout then pure () else vsfCmdioWrite cfg k 426 networkFailure
  else vsfCmdioWrite cfg k 226 "Transfer complete."

/-- What follows the transfer of a file; the result of the whole. -/
def finishTransfer (ret : VsfTransferRet) (localFailure networkFailure : String) :
    M W Int := do
  let disposed ← vsfFtpdataioDisposeTransferFd cfg k
  let retval := if !disposed ∧ ret.retval = 0 then -2 else ret.retval
  updateSession fun sess => { sess with transferSize := ret.transferred }
  Prog.whenever (retval = 0) (vsfLogDoLog cfg k true)
  replyTransfer cfg k retval localFailure networkFailure
  checkAbor cfg k
  pure retval

def retrMark (isAscii : Bool) (name : Bytes) (size : Int) : Bytes :=
  bytes "Opening " ++ (if isAscii then bytes "ASCII" else bytes "BINARY") ++
    bytes " mode data connection for " ++ name ++ bytes " (" ++ vsfSysutilFilesizeTToStr size ++
    bytes " bytes)."

def retrTransfer (remoteFd openedFile : Fd) (isAscii : Bool) : M W Unit :=
  if remoteFd < 0 then pure ()
  else do
    let ret ← vsfFtpdataioTransferFile cfg k remoteFd openedFile false isAscii
    let _ ← finishTransfer cfg k ret "Failure reading local file."
      "Failure writing network stream."
    pure ()

/-- Serve the file that was opened. -/
def retrOpened (offset : Int) (openedFile : Fd) : M W Unit := do
  Prog.whenever (cfg.lockUploadFiles = true) (lockFile cfg k openedFile false)
  withFstat k openedFile fun statbuf => do
    let sess ← getSess .session
    if statbuf.kind ≠ .regular then do
      vsfCmdioWrite cfg k 550 "Failed to open file."
      Prog.whenever (statbuf.kind = .directory) vsfLogClearEntry
      closeFile cfg k openedFile
    else do
      vsfSysutilDeactivateNoblock k openedFile
      if sess.isAnonymous ∧ cfg.anonWorldReadableOnly ∧ !statbuf.readableOther then do
        vsfCmdioWrite cfg k 550 "Failed to open file."
        closeFile cfg k openedFile
      else do
        Prog.whenever (offset ≠ 0) (vsfSysutilLseekTo k openedFile offset)
        let isAscii := cfg.asciiDownloadEnable && sess.isAscii
        withSize statbuf fun size => do
          let remoteFd ← getRemoteTransferFd cfg k (retrMark isAscii sess.ftpArgStr size)
          retrTransfer cfg k remoteFd openedFile isAscii
          portPasvCleanup cfg k
          closeFile cfg k openedFile

def handleRetr : M W Unit := do
  let before ← getSess .session
  let offset := before.restartPos
  updateSession fun sess => { sess with restartPos := 0 }
  let ok ← dataTransferChecksOk cfg k
  if !ok then pure ()
  else if before.isAscii ∧ offset ≠ 0 then
    vsfCmdioWrite cfg k 550 "No support for resume of ASCII transfer."
  else do
    resolveArg cfg k
    vsfLogStartEntry .download
    logArg k
    let s ← Prog.get
    if !checkFile cfg k s s.session.ftpArgStr ∨
        !checkFileDownload cfg k s s.session.ftpArgStr then noPermission cfg k
    else do
      let openedFile ← strOpen k s.session.ftpArgStr
      if openedFile < 0 then vsfCmdioWrite cfg k 550 "Failed to open file."
      else retrOpened cfg k offset openedFile

/-! ### Listings -/

/-- The options and the filter of an argument. -/
def splitListArg (arg : Bytes) : Bytes × Bytes :=
  match arg with
  | 45 :: rest => strSplitChar rest 32
  | _ => ([], arg)

/-- The directory and the filter of a name that is no directory. -/
def splitDirName (filter : Bytes) : Bytes × Bytes :=
  if (strLocateChar filter slash).isSome then
    let split := strSplitCharReverse filter slash
    (if strIsempty split.1 then [slash] else split.1, split.2)
  else (bytes ".", filter)

/-- What is listed, and by which filter: the current directory without a name, the name
when it is a directory, else its directory part. -/
def listNames (named isDir : Bool) (filter : Bytes) : Bytes × Bytes :=
  if !named then (bytes ".", filter) else if isDir then (filter, []) else splitDirName filter

/-- The open directory, its name and the filter that is left. -/
def openListDir (named : Bool) (filter : Bytes) : M W (Option Fd × Bytes × Bytes) :=
  if !named then do
    let dir ← strOpendir k (bytes ".")
    pure (dir, bytes ".", filter)
  else do
    let dir ← strOpendir k filter
    match dir with
    | some fd => pure (some fd, filter, [])
    | none => do
      let names := splitDirName filter
      let dir ← strOpendir k names.1
      pure (dir, names)

/-- `p_dir && dir_allow_read` -/
def dirMayBeRead (dir : Option Fd) : M W Bool := do
  let s ← Prog.get
  match dir with
  | none => pure false
  | some fd =>
    if s.session.isAnonymous ∧ cfg.anonWorldReadableOnly then
      withFstat k fd fun statbuf => pure statbuf.readableOther
    else pure true

def listDir (dir : Option Fd) (names : Bytes × Bytes) (option : Bytes)
    (fullDetails isControl : Bool) : M W (Bool × Int) := do
  let readable ← dirMayBeRead cfg k dir
  if readable then do
    let ret ← vsfFtpdataioTransferDir cfg k (dir.getD (-1)) names.1 option names.2 isControl
      fullDetails
    pure (true, ret)
  else pure (false, 0)

def replyListing (retval : Int) (readable : Bool) : M W Unit := do
  let sess ← getSess .session
  if retval ≠ 0 then
    if sess.dataTimeout then pure ()
    else vsfCmdioWrite cfg k 426 "Failure writing network stream."
  else if !readable then
    vsfCmdioWrite cfg k 226 "Transfer done (but failed to open directory)."
  else vsfCmdioWrite cfg k 226 "Directory send OK."

/-- The listing over a data connection. -/
def dirTransfer (dir : Option Fd) (names : Bytes × Bytes) (option : Bytes) (fullDetails : Bool) :
    M W Unit := do
  let remoteFd ← getRemoteTransferFd cfg k (bytes "Here comes the directory listing.")
  if remoteFd < 0 then pure ()
  else do
    let listed ← listDir cfg k dir names option fullDetails false
    let disposed ← vsfFtpdataioDisposeTransferFd cfg k
    replyListing cfg k (if !disposed ∧ listed.2 = 0 then -1 else listed.2) listed.1
    checkAbor cfg k

/-- The listing over the control connection. -/
def dirStatus (dir : Option Fd) (names : Bytes × Bytes) (option : Bytes) (fullDetails : Bool) :
    M W Unit := do
  vsfCmdioWriteHyphen cfg k 213 (bytes "Status follows:")
  let _ ← listDir cfg k dir names (option ++ bytes "a") fullDetails true
  vsfCmdioWrite cfg k 213 "End of status"
  checkAbor cfg k

def closeListDir (dir : Option Fd) : M W Unit :=
  match dir with
  | none => pure ()
  | some fd => vsfSysutilClosedir k fd

def listFilter (named : Bool) (option filter : Bytes) (fullDetails statCmd : Bool) :
    M W Unit := do
  let opened ← openListDir k named filter
  if statCmd then do
    dirStatus cfg k opened.1 opened.2 option fullDetails
    closeListDir k opened.1
  else do
    dirTransfer cfg k opened.1 opened.2 option fullDetails
    closeListDir k opened.1
    portPasvCleanup cfg k

/-- The checks of `data_transfer_checks_ok`, which STAT does not make. -/
def listChecksOk (statCmd : Bool) : M W Bool :=
  if statCmd then pure true else dataTransferChecksOk cfg k

def handleDirCommon (fullDetails statCmd : Bool) : M W Unit := do
  let ok ← listChecksOk cfg k statCmd
  if !ok then pure ()
  else do
    let s ← Prog.get
    let arg := splitListArg s.session.ftpArgStr
    let named := !strIsempty arg.2
    let filter := resolveName cfg k s arg.2
    if named ∧ !checkFile cfg k s filter then noPermission cfg k
    else listFilter cfg k named arg.1 filter fullDetails statCmd

def handleList : M W Unit := handleDirCommon cfg k true false

def handleNlst : M W Unit := handleDirCommon cfg k false false

def handleStatFile : M W Unit := handleDirCommon cfg k true true

/-! ### Uploads -/

/-- The first suffix whose name is not taken; the suffix is an `unsigned int`. -/
def uniqueLoop (taken : Bytes → Bool) (base : Bytes) : Nat → Nat → Option Bytes
  | 0, _ => none
  | n + 1, suffix =>
    let name := base ++ bytes "." ++ vsfSysutilUlongToStr suffix
    if taken name then uniqueLoop taken base n ((suffix + 1) % 2 ^ 32) else some name

/-- None when every suffix is taken and the search goes on for ever. -/
def getUniqueFilename (taken : Bytes → Bool) (base : Bytes) : Option Bytes :=
  if strIsempty base then uniqueLoop taken (bytes "STOU") (2 ^ 32) 1
  else if taken base then uniqueLoop taken base (2 ^ 32) 1
  else some base

/-- The name that an upload writes to, in a state whose argument is resolved. -/
def uploadName (isUnique : Bool) (s : State W) : Option Bytes :=
  if isUnique then getUniqueFilename (fun path => (k.stat s.world path).isSome) s.session.ftpArgStr
  else some s.session.ftpArgStr

def uploadExclusive (isUnique : Bool) (sess : VsfSession) : Bool :=
  isUnique || (sess.isAnonymous && !cfg.anonOtherWriteEnable)

def openUpload (exclusive : Bool) (name : Bytes) : M W Fd :=
  if exclusive then strCreateExclusive cfg k name else strCreate cfg k name

/-- `fchmod` and `chown` of an anonymous upload. -/
def giveAway (fd : Fd) : M W Unit := do
  vsfSysutilFchmod k fd cfg.chownUploadMode
  chownUpload cfg k fd

def seekUpload (isAppend : Bool) (offset : Int) (fd : Fd) : M W Unit :=
  if isAppend then vsfSysutilLseekEnd k fd
  else if offset ≠ 0 then vsfSysutilLseekTo k fd offset
  else pure ()

def uploadMessage (isUnique : Bool) (name : Bytes) : Bytes :=
  if isUnique then bytes "FILE: " ++ name else bytes "Ok to send data."

/-- Whether the upload succeeded. -/
def uploadTransfer (remoteFd newFileFd : Fd) : M W Bool :=
  if remoteFd < 0 then pure false
  else do
    let sess ← getSess .session
    let ret ← vsfFtpdataioTransferFile cfg k remoteFd newFileFd true
      (cfg.asciiUploadEnable && sess.isAscii)
    let retval ← finishTransfer cfg k ret "Failure writing to local file."
      "Failure reading network stream."
    pure (retval = 0)

def truncateUpload (fd : Fd) : M W Unit := do
  vsfSysutilFtruncate k fd
  vsfSysutilLseekTo k fd 0

def uploadOpened (isAppend isUnique doTruncate : Bool) (offset : Int) (name : Bytes)
    (newFileFd : Fd) : M W Unit :=
  withFstat k newFileFd fun statbuf => do
    let sess ← getSess .session
    Prog.whenever (statbuf.kind = .regular) (vsfSysutilDeactivateNoblock k newFileFd)
    Prog.whenever (sess.isAnonymous ∧ cfg.chownUploads) (giveAway cfg k newFileFd)
    Prog.whenever (cfg.lockUploadFiles = true) (lockFile cfg k newFileFd true)
    Prog.whenever (doTruncate = true) (truncateUpload k newFileFd)
    seekUpload k isAppend offset newFileFd
    let remoteFd ← getRemoteTransferFd cfg k (uploadMessage isUnique name)
    let success ← uploadTransfer cfg k remoteFd newFileFd
    portPasvCleanup cfg k
    Prog.whenever (cfg.deleteFailedUploads = true ∧ success = false) (do
      let _ ← sys k (.unlink name)
      pure ())
    closeFile cfg k newFileFd

/-- Create the file, when the checks let it through, and fill it. -/
def uploadNamed (isAppend isUnique : Bool) (offset : Int) (name : Bytes) : M W Unit := do
  vsfLogStartEntry .upload
  logArg k
  let s ← Prog.get
  let exclusive := uploadExclusive cfg isUnique s.session
  if !checkFile cfg k s name ∨ !checkFileUpload cfg k s name then noPermission cfg k
  else do
    let newFileFd ← openUpload cfg k exclusive name
    if newFileFd < 0 then vsfCmdioWrite cfg k 553 "Could not create file."
    else
      uploadOpened cfg k isAppend isUnique (!exclusive && !isAppend && offset = 0) offset name
        newFileFd

def handleUploadCommon (isAppend isUnique : Bool) : M W Unit := do
  let before ← getSess .session
  updateSession fun sess => { sess with restartPos := 0 }
  let ok ← dataTransferChecksOk cfg k
  if !ok then pure ()
  else do
    resolveArg cfg k
    let s ← Prog.get
    match uploadName k isUnique s with
    | none => Prog.halt .searching
    | some name => uploadNamed cfg k isAppend isUnique before.restartPos name

def handleStor : M W Unit := handleUploadCommon cfg k false false

def handleAppe : M W Unit := handleUploadCommon cfg k true false

def handleStou : M W Unit := handleUploadCommon cfg k false true

/-! ## Directories and files -/

def doubleQuotes (text : Bytes) : Bytes := strReplaceText text [34] [34, 34]

def handlePwd : M W Unit := do
  let s ← Prog.get
  vsfCmdioWriteStr cfg k 257
    (bytes "\"" ++ doubleQuotes (k.pathEnv s.world).getcwd ++ bytes "\" is the current directory")

def handleCwd : M W Unit := do
  resolveArg cfg k
  let s ← Prog.get
  if !checkFile cfg k s s.session.ftpArgStr then noPermission cfg k
  else do
    let ok ← sys k (.chdir s.session.ftpArgStr)
    if ok then do
      vsfBannerDirChanged cfg k 250
      vsfCmdioWrite cfg k 250 "Directory successfully changed."
    else vsfCmdioWrite cfg k 550 "Failed to change directory."

def handleCdup : M W Unit := do
  updateSession fun sess => { sess with ftpArgStr := bytes ".." }
  handleCwd cfg k

/-- The start of a logged operation on the file that the argument names: when the
check lets it through, the operation is called with the name. -/
def withCheckedArg (what : LogEntryType) (act : Bytes → M W Unit) : M W Unit := do
  resolveArg cfg k
  vsfLogStartEntry what
  logArg k
  let s ← Prog.get
  if !checkFile cfg k s s.session.ftpArgStr then noPermission cfg k
  else act s.session.ftpArgStr

def mkdReply (s : State W) (path : Bytes) : Bytes :=
  bytes "\"" ++ doubleQuotes (fullName k s path) ++ bytes "\" created"

def handleMkd : M W Unit :=
  withCheckedArg cfg k .mkdir fun path => do
    let ok ← sys k (.mkdir path 0o777)
    if ok then do
      vsfLogDoLog cfg k true
      let s ← Prog.get
      vsfCmdioWriteStr cfg k 257 (mkdReply k s path)
    else vsfCmdioWrite cfg k 550 "Create directory operation failed."

/-- The log entry and the reply of an operation. -/
def reportOperation (ok : Bool) (status : FtpCode) (success failure : String) : M W Unit :=
  if ok then do
    vsfLogDoLog cfg k true
    vsfCmdioWrite cfg k status success
  else vsfCmdioWrite cfg k 550 failure

def handleRmd : M W Unit :=
  withCheckedArg cfg k .rmdir fun path => do
    let ok ← sys k (.rmdir path)
    reportOperation cfg k ok 250 "Remove directory operation successful."
      "Remove directory operation failed."

def handleDele : M W Unit :=
  withCheckedArg cfg k .delete fun path => do
    let ok ← sys k (.unlink path)
    reportOperation cfg k ok 250 "Delete operation successful." "Delete operation failed."

def handleRest : M W Unit := do
  let sess ← getSess .session
  let size ← orDie (vsfSysutilAToFilesizeT sess.ftpArgStr)
  let val := max size 0
  updateSession fun sess => { sess with restartPos := val }
  vsfCmdioWriteStr cfg k 350
    (bytes "Restart position accepted (" ++ vsfSysutilFilesizeTToStr val ++ bytes ").")

/-- A RNFR that failed leaves a log entry behind. -/
def rnfrFailed (text : String) : M W Unit := do
  vsfLogStartEntry .rename
  logArg k
  vsfCmdioWrite cfg k 550 text

def handleRnfr : M W Unit := do
  updateSession fun sess => { sess with rnfrFilenameStr := [] }
  resolveArg cfg k
  let s ← Prog.get
  if !checkFile cfg k s s.session.ftpArgStr then rnfrFailed cfg k "Permission denied."
  else if (k.stat s.world s.session.ftpArgStr).isSome then do
    updateSession fun sess => { sess with rnfrFilenameStr := sess.ftpArgStr }
    vsfCmdioWrite cfg k 350 "Ready for RNTO."
  else rnfrFailed cfg k "RNFR command failed."

def handleRnto : M W Unit := do
  let before ← getSess .session
  if strIsempty before.rnfrFilenameStr then vsfCmdioWrite cfg k 503 "RNFR required first."
  else do
    resolveArg cfg k
    vsfLogStartEntry .rename
    let s ← Prog.get
    setLogStr (fullName k s s.session.rnfrFilenameStr ++ bytes " " ++
      fullName k s s.session.ftpArgStr)
    if !checkFile cfg k s s.session.ftpArgStr then noPermission cfg k
    else do
      let ok ← sys k (.rename s.session.rnfrFilenameStr s.session.ftpArgStr)
      updateSession fun sess => { sess with rnfrFilenameStr := [] }
      reportOperation cfg k ok 250 "Rename successful." "Rename failed."

def handleSize : M W Unit := do
  resolveArg cfg k
  let s ← Prog.get
  if !checkFile cfg k s s.session.ftpArgStr then noPermission cfg k
  else
    match k.stat s.world s.session.ftpArgStr with
    | none => vsfCmdioWrite cfg k 550 "Could not get file size."
    | some statbuf =>
      if statbuf.kind ≠ .regular then vsfCmdioWrite cfg k 550 "Could not get file size."
      else
        withSize statbuf fun size => vsfCmdioWriteStr cfg k 213 (vsfSysutilFilesizeTToStr size)

def chmodNamed (perms file : Bytes) : M W Unit := do
  vsfLogStartEntry .chmod
  let s ← Prog.get
  setLogStr (fullName k s file ++ bytes " " ++ perms)
  if !checkFile cfg k s file then noPermission cfg k
  else do
    let mode ← orDie (vsfSysutilOctalToUint perms)
    let ok ← sys k (.chmod file (mode % 0o1000))
    reportOperation cfg k ok 200 "SITE CHMOD command ok." "SITE CHMOD command failed."

def handleSiteChmod (arg : Bytes) : M W Unit := do
  let s ← Prog.get
  let split := strSplitChar arg 32
  if strIsempty arg ∨ strIsempty split.2 then
    vsfCmdioWrite cfg k 500 "SITE CHMOD needs 2 arguments."
  else chmodNamed cfg k split.1 (resolveName cfg k s split.2)

def handleSiteUmask (arg : Bytes) : M W Unit := do
  let s ← Prog.get
  if strIsempty arg then
    vsfCmdioWriteStr cfg k 200 (bytes "Your current UMASK is " ++ vsfSysutilUintToOctal s.umask)
  else do
    let newUmask ← orDie (vsfSysutilOctalToUint arg)
    let umask := newUmask % 0o1000
    Prog.modify fun s => { s with umask := umask }
    vsfCmdioWriteStr cfg k 200 (bytes "UMASK set to " ++ vsfSysutilUintToOctal umask)

def handleSite : M W Unit := do
  let sess ← getSess .session
  let split := strSplitChar sess.ftpArgStr 32
  let sub := strUpper split.1
  updateSession fun sess => { sess with ftpArgStr := sub }
  if cfg.writeEnable ∧ cfg.chmodEnable ∧ sub = bytes "CHMOD" then handleSiteChmod cfg k split.2
  else if sub = bytes "UMASK" then handleSiteUmask cfg k split.2
  else if sub = bytes "HELP" then
    vsfCmdioWrite cfg k 214
      (if cfg.writeEnable ∧ cfg.chmodEnable then "CHMOD UMASK HELP" else "UMASK HELP")
  else vsfCmdioWrite cfg k 500 "Unknown SITE command."

/-- Whether an argument that names no file is a date and a name. -/
def mdtmDoWrite (present : Bool) (arg : Bytes) : Bool :=
  match strLocateChar arg 32, arg.head? with
  | some index, some first =>
    cfg.mdtmWrite && !present && vsfSysutilIsdigit first &&
      (index = 8 || index = 14 || (index > 15 && arg[14]? = some 46))
  | _, _ => false

def mdtmSet (path : Bytes) (modtime : Int) : M W Unit := do
  let s ← Prog.get
  match k.stat s.world path with
  | none => vsfCmdioWrite cfg k 550 "Could not set file modification time."
  | some statbuf =>
    if statbuf.kind ≠ .regular then
      vsfCmdioWrite cfg k 550 "Could not set file modification time."
    else do
      let ok ← sys k (.utime path modtime cfg.useLocaltime)
      if ok then vsfCmdioWrite cfg k 213 "File modification time set."
      else vsfCmdioWrite cfg k 550 "Could not set file modification time."

def mdtmGet (statbuf : Option Statbuf) : M W Unit :=
  match statbuf with
  | none => vsfCmdioWrite cfg k 550 "Could not get file modification time."
  | some statbuf =>
    if statbuf.kind ≠ .regular then
      vsfCmdioWrite cfg k 550 "Could not get file modification time."
    else
      match k.numericDate statbuf.mtime cfg.useLocaltime with
      | none => die "strftime"
      | some date => vsfCmdioWriteStr cfg k 213 date

/-- After the date has been taken off; `statbuf` is what the whole argument named. -/
def mdtmChecked (doWrite : Bool) (statbuf : Option Statbuf) (modtime : Int) : M W Unit := do
  resolveArg cfg k
  let s ← Prog.get
  if !checkFile cfg k s s.session.ftpArgStr then noPermission cfg k
  else if doWrite ∧ cfg.writeEnable ∧ (cfg.anonOtherWriteEnable ∨ !s.session.isAnonymous) then
    mdtmSet cfg k s.session.ftpArgStr modtime
  else mdtmGet cfg k statbuf

def handleMdtm : M W Unit := do
  let s ← Prog.get
  let arg := s.session.ftpArgStr
  let statbuf := k.stat s.world arg
  if mdtmDoWrite cfg statbuf.isSome arg then
    let split := strSplitChar arg 32
    -- the cast to fourteen characters
    if split.1.length < 14 then Prog.halt .trap
    else do
      let time ← orDie (vsfSysutilParseTime split.1)
      updateSession fun sess => { sess with ftpArgStr := split.2 }
      mdtmChecked cfg k true statbuf (k.mktime time)
  else mdtmChecked cfg k false statbuf 0

/-! ## Settings and texts -/

def handleType : M W Unit := do
  let sess ← getSess .session
  let arg := strUpper sess.ftpArgStr
  updateSession fun sess => { sess with ftpArgStr := arg }
  if arg = bytes "I" ∨ arg = bytes "L8" ∨ arg = bytes "L 8" then do
    updateSession fun sess => { sess with isAscii := false }
    vsfCmdioWrite cfg k 200 "Switching to Binary mode."
  else if arg = bytes "A" ∨ arg = bytes "A N" then do
    updateSession fun sess => { sess with isAscii := true }
    vsfCmdioWrite cfg k 200 "Switching to ASCII mode."
  else vsfCmdioWrite cfg k 500 "Unrecognised TYPE command."

/-- STRU and MODE know one argument each. -/
def handleOnlyArg (arg : String) (ok : String) (bad : String) : M W Unit := do
  let sess ← getSess .session
  let given := strUpper sess.ftpArgStr
  updateSession fun sess => { sess with ftpArgStr := given }
  if given = bytes arg then vsfCmdioWrite cfg k 200 ok else vsfCmdioWrite cfg k 504 bad

def handleOpts : M W Unit := do
  let sess ← getSess .session
  let arg := strUpper sess.ftpArgStr
  updateSession fun sess => { sess with ftpArgStr := arg }
  if arg = bytes "UTF8 ON" then vsfCmdioWrite cfg k 200 "Always in UTF8 mode."
  else vsfCmdioWrite cfg k 501 "Option not understood."

def handlePbsz : M W Unit := do
  let sess ← getSess .session
  if sess.controlUseSsl then vsfCmdioWrite cfg k 200 "PBSZ set to 0."
  else vsfCmdioWrite cfg k 503 "PBSZ needs a secure connection."

def handleProt : M W Unit := do
  let sess ← getSess .session
  let arg := strUpper sess.ftpArgStr
  updateSession fun sess => { sess with ftpArgStr := arg }
  if !sess.controlUseSsl then vsfCmdioWrite cfg k 503 "PROT needs a secure connection."
  else if arg = bytes "C" then do
    updateSession fun sess => { sess with dataUseSsl := false }
    vsfCmdioWrite cfg k 200 "PROT now Clear."
  else if arg = bytes "P" then do
    updateSession fun sess => { sess with dataUseSsl := true }
    vsfCmdioWrite cfg k 200 "PROT now Private."
  else if arg = bytes "S" ∨ arg = bytes "E" then vsfCmdioWrite cfg k 536 "PROT not supported."
  else vsfCmdioWrite cfg k 504 "PROT not recognized."

def handleLoggedInUser : M W Unit := do
  let sess ← getSess .session
  if sess.isAnonymous then vsfCmdioWrite cfg k 530 "Can't change from guest user."
  else if sess.userStr = sess.ftpArgStr then vsfCmdioWrite cfg k 331 "Any password will do."
  else vsfCmdioWrite cfg k 530 "Can't change to another user."

def handleLoggedInPass : M W Unit := vsfCmdioWrite cfg k 230 "Already logged in."

/-- Raw lines, some of them under a condition. -/
def writeRawLines (lines : List (Bool × Bytes)) : M W Unit :=
  Prog.forEach (fun line => Prog.whenever (line.1 = true) (vsfCmdioWriteRaw cfg k line.2)) lines

def crlf : Bytes := [13, 10]

def handleHelp : M W Unit := do
  vsfCmdioWriteHyphen cfg k 214 (bytes "The following commands are recognized.")
  writeRawLines cfg k
    [(true, bytes " ABOR ACCT ALLO APPE CDUP CWD  DELE EPRT EPSV FEAT HELP LIST MDTM MKD" ++ crlf),
     (true, bytes " MODE NLST NOOP OPTS PASS PASV PORT PWD  QUIT REIN REST RETR RMD  RNFR" ++ crlf),
     (true, bytes " RNTO SITE SIZE SMNT STAT STOR STOU STRU SYST TYPE USER XCUP XCWD XMKD" ++ crlf),
     (true, bytes " XPWD XRMD" ++ crlf)]
  vsfCmdioWrite cfg k 214 "Help OK."

/-- `features.c` -/
def handleFeat : M W Unit := do
  vsfCmdioWriteHyphen cfg k 211 (bytes "Features:")
  writeRawLines cfg k
    [(cfg.sslEnable && (cfg.sslv2 || cfg.sslv3), bytes " AUTH SSL" ++ crlf),
     (cfg.sslEnable && cfg.tlsv1, bytes " AUTH TLS" ++ crlf),
     (cfg.utf8Filesystem, bytes " UTF8" ++ crlf),
     (cfg.portEnable, bytes " EPRT" ++ crlf),
     (cfg.pasvEnable, bytes " EPSV" ++ crlf),
     (true, bytes " MDTM" ++ crlf),
     (cfg.pasvEnable, bytes " PASV" ++ crlf),
     (cfg.sslEnable, bytes " PBSZ" ++ crlf),
     (cfg.sslEnable, bytes " PROT" ++ crlf),
     (true, bytes " REST STREAM" ++ crlf),
     (true, bytes " SIZE" ++ crlf),
     (true, bytes " TVFS" ++ crlf)]
  vsfCmdioWrite cfg k 211 "End"

def handleStat : M W Unit := do
  vsfCmdioWriteHyphen cfg k 211 (bytes "FTP server status:")
  let sess ← getSess .session
  writeRawLines cfg k
    [(true, bytes "     Connected to "), (true, cString sess.remoteIpStr), (true, crlf),
     (true, bytes "     Logged in as "), (true, cString sess.userStr), (true, crlf),
     (true, bytes "     TYPE: "),
     (true, (if sess.isAscii then bytes "ASCII" else bytes "BINARY") ++ crlf),
     (sess.bwRateMax = 0, bytes "     No session bandwidth limit" ++ crlf),
     (sess.bwRateMax ≠ 0, bytes "     Session bandwidth limit in byte/s is "),
     (sess.bwRateMax ≠ 0, vsfSysutilUlongToStr sess.bwRateMax),
     (sess.bwRateMax ≠ 0, crlf),
     (cfg.idleSessionTimeout = 0, bytes "     No session timeout" ++ crlf),
     (cfg.idleSessionTimeout ≠ 0, bytes "     Session timeout in seconds is "),
     (cfg.idleSessionTimeout ≠ 0, vsfSysutilUlongToStr cfg.idleSessionTimeout),
     (cfg.idleSessionTimeout ≠ 0, crlf),
     (sess.controlUseSsl, bytes "     Control connection is encrypted" ++ crlf),
     (!sess.controlUseSsl, bytes "     Control connection is plain text" ++ crlf),
     (sess.dataUseSsl, bytes "     Data connections will be encrypted" ++ crlf),
     (!sess.dataUseSsl, bytes "     Data connections will be plain text" ++ crlf),
     (sess.numClients > 0, bytes "     At session startup, client count was "),
     (sess.numClients > 0, vsfSysutilUlongToStr sess.numClients),
     (sess.numClients > 0, crlf),
     (true, bytes "     vsFTPd 3.0.3 - secure, fast, stable" ++ crlf)]
  vsfCmdioWrite cfg k 211 "End of status"

end Vsftpd.Session
