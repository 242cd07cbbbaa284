import Vsftpd.Session.State

/-!
# The control connection

`ftpcmdio.c`, with the signal handlers that run whenever the process checks for
pending actions, and the reply writing of `banner.c` and `logging.c`.

A handler that is running is not run again: the URG handler, which reads a command
and replies, makes its checks with the other handlers only.  The pauses that limit
the bandwidth and the log of the protocol lines are left out.
-/

namespace Vsftpd.Session

open Vsftpd.Lib

variable {W : Type}

def vsftpCommandFd : Fd := 0

/-- `ftpcodes.h` -/
abbrev FtpCode := Nat

def updateSession (f : VsfSession → VsfSession) : M W Unit := modifySess .session f

/-! ## Replies -/

def vsfSysutilActivateNoblock (k : Kernel W) (fd : Fd) : M W Unit := do
  let ok ← sys k (.fcntlFlags fd)
  if ok then pure () else die "fcntl"

/-- Telnet characters doubled, newlines as zeros. -/
def mangleText (text : Bytes) : Bytes :=
  strReplaceChar (strReplaceText text [255] [255, 255]) 10 0

def ftpWriteStrCommon (k : Kernel W) (chk : M W Unit) (status : FtpCode) (sep : UInt8)
    (text : Bytes) : M W Unit := do
  let ok ← sys k (.send status sep (mangleText text))
  chk
  if ok then pure () else die "ftp_write"

def ftpWriteExit {α : Type} (k : Kernel W) (chk : M W Unit) (status : FtpCode) (text : Bytes)
    (exitVal : Int) : M W α := do
  vsfSysutilActivateNoblock k vsftpCommandFd
  sys k (.shutdown vsftpCommandFd)
  ftpWriteStrCommon k chk status 32 text
  sys k (.shutdown vsftpCommandFd)
  Prog.halt (.exit exitVal)

/-! ## Commands -/

/-- The line without its trailing carriage returns, split at the first space. -/
def splitCommand (text : Bytes) : Bytes × Bytes :=
  let stripped := ((strReplaceChar text 0 10).reverse.dropWhile (· = 13)).reverse
  if stripped = [32] then (stripped, [])
  else
    let split := strSplitChar stripped 32
    (strUpper split.1, split.2)

def vsfCmdioSetAlarm (cfg : Tunables) : M W Unit :=
  Prog.whenever (cfg.idleSessionTimeout > 0)
    (Prog.modify fun s => { s with alarmHandler := some .idle })

def getCmdAndArgWith (cfg : Tunables) (k : Kernel W) (chk : M W Unit) (setAlarm : Bool) :
    M W (Bytes × Bytes) := do
  Prog.whenever (setAlarm = true) (vsfCmdioSetAlarm cfg)
  let line ← sys k .recvLine
  chk
  let sess ← getSess .session
  match line with
  | .tooLong => ftpWriteExit k chk 500 (bytes "Input line too long.") 1
  | .eof =>
    if sess.idleTimeout then ftpWriteExit k chk 421 (bytes "Timeout.") 1
    else do
      sys k (.shutdown vsftpCommandFd)
      Prog.halt (.exit 1)
  | .line text =>
    if sess.idleTimeout then ftpWriteExit k chk 421 (bytes "Timeout.") 1
    else pure (splitCommand text)

/-! ## Signal handlers -/

section
variable (cfg : Tunables) (k : Kernel W)

def startDataAlarm : M W Unit :=
  Prog.whenever (cfg.dataConnectionTimeout > 0)
    (Prog.modify fun s => { s with alarmHandler := some .data })

/-- `handle_io`, called for bytes on the data connection. -/
def handleIo : M W Unit := do
  let s ← Prog.get
  Prog.whenever (s.ioHandler = true) (updateSession fun sess => { sess with dataProgress := true })

def handleAlarmTimeout : M W Unit := do
  updateSession fun sess => { sess with idleTimeout := true }
  vsfSysutilActivateNoblock k vsftpCommandFd
  sys k (.shutdown vsftpCommandFd)

/-- The handler of the alarm on the data connection. -/
def handleSigalrm : M W Unit := do
  let sess ← getSess .session
  if !sess.dataProgress then do
    updateSession fun sess => { sess with dataTimeout := true }
    sys k (.shutdown sess.dataFd)
    sys k (.shutdown vsftpCommandFd)
    vsfSysutilActivateNoblock k vsftpCommandFd
  else do
    updateSession fun sess => { sess with dataProgress := false }
    startDataAlarm cfg

def handleAlarm : M W Unit := do
  let s ← Prog.get
  match s.alarmHandler with
  | none => pure ()
  | some .idle => handleAlarmTimeout k
  | some .data => handleSigalrm cfg k

/-- One pending action, while the URG handler runs. -/
def handleInner : Pending → M W Unit
  | .io => handleIo
  | .sigalrm => handleAlarm cfg k
  | .sigurg => pure ()

def checkPendingInner : M W Unit := do
  let pending ← sys k .checkPending
  Prog.forEach (handleInner cfg k) pending

/-- The command after the four telnet characters. -/
def asyncCommand (cmd : Bytes) : Bytes :=
  if cmd.length ≥ 4 then strRight cmd (cmd.length - 4) else []

def handleSigurg : M W Unit := do
  let sess ← getSess .session
  if sess.dataFd = -1 then pure ()
  else do
    let cmdArg ← getCmdAndArgWith cfg k (checkPendingInner cfg k) false
    if asyncCommand cmdArg.1 = bytes "ABOR" then do
      updateSession fun sess => { sess with aborReceived := true }
      sys k (.shutdown sess.dataFd)
    else ftpWriteStrCommon k (checkPendingInner cfg k) 500 32 (bytes "Unknown command.")

def handlePending : Pending → M W Unit
  | .io => handleIo
  | .sigalrm => handleAlarm cfg k
  | .sigurg => do
    let s ← Prog.get
    Prog.whenever (s.sigurgHandler = true) (handleSigurg cfg k)

def checkPendingActions : M W Unit := do
  let pending ← sys k .checkPending
  Prog.forEach (handlePending cfg k) pending

/-! ## The functions that the session calls -/

def vsfCmdioWriteStr (status : FtpCode) (text : Bytes) : M W Unit :=
  ftpWriteStrCommon k (checkPendingActions cfg k) status 32 text

def vsfCmdioWrite (status : FtpCode) (text : String) : M W Unit :=
  vsfCmdioWriteStr cfg k status (bytes text)

def vsfCmdioWriteHyphen (status : FtpCode) (text : Bytes) : M W Unit :=
  ftpWriteStrCommon k (checkPendingActions cfg k) status 45 text

def vsfCmdioWriteRaw (text : Bytes) : M W Unit := do
  let ok ← sys k (.sendRaw text)
  checkPendingActions cfg k
  if ok then pure () else die "ftp_write_str"

def vsfCmdioWriteExit {α : Type} (status : FtpCode) (text : String) (exitVal : Int) : M W α :=
  ftpWriteExit k (checkPendingActions cfg k) status (bytes text) exitVal

def vsfCmdioGetCmdAndArg : M W Unit := do
  let cmdArg ← getCmdAndArgWith cfg k (checkPendingActions cfg k) true
  updateSession fun sess => { sess with ftpCmdStr := cmdArg.1, ftpArgStr := cmdArg.2 }

/-! ## `banner.c` -/

def vsftpMaxVisitRemember : Nat := 100
def vsftpMaxMsgfileSize : Nat := 4000

/-- The lines that repeated `str_getline` finds; each moves the position on. -/
def linesFrom (s : Bytes) : Nat → Nat → List Bytes
  | 0, _ => []
  | n + 1, pos =>
    match strGetline s pos with
    | none => []
    | some (line, next) => line :: linesFrom s n next

def vsfBannerWrite (text : Bytes) (ftpcode : FtpCode) : M W Unit :=
  Prog.forEach (vsfCmdioWriteHyphen cfg k ftpcode) (linesFrom text (text.length + 1) 0)

def rememberDir (dir : Bytes) (dirs : List Bytes) : List Bytes :=
  if dirs.length < vsftpMaxVisitRemember then dirs ++ [dir] else dirs

def vsfBannerDirChanged (ftpcode : FtpCode) : M W Unit := do
  let s ← Prog.get
  let dir := (k.pathEnv s.world).getcwd
  if cfg.dirmessageEnable = false ∨ dir ∈ s.session.visitedDirList then pure ()
  else do
    updateSession fun sess => { sess with visitedDirList := rememberDir dir sess.visitedDirList }
    match cfg.messageFile with
    | none => vsfBannerWrite cfg k [] ftpcode
    | some file =>
      vsfBannerWrite cfg k ((k.fileread s.world file).take vsftpMaxMsgfileSize) ftpcode

/-! ## `logging.c` -/

def vsfLogStartEntry (what : LogEntryType) : M W Unit := do
  let sess ← getSess .session
  if sess.logType ≠ none then bug "non null log_type in vsf_log_start_entry"
  else
    updateSession fun sess =>
      { sess with logType := some what, transferSize := 0, logStr := [] }

def setLogStr (text : Bytes) : M W Unit :=
  updateSession fun sess => { sess with logStr := text }

def vsfLogClearEntry : M W Unit := updateSession fun sess => { sess with logType := none }

def vsfLogDoLog (succeeded : Bool) : M W Unit := do
  let sess ← getSess .session
  sys k (.log succeeded sess.logType sess.logStr)
  checkPendingActions cfg k
  vsfLogClearEntry

end

end Vsftpd.Session
