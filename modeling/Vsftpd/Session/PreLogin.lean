import Vsftpd.Session.Replies

/-!
# Before the login

`prelogin.c`, with AUTH and the control handshake of `ssl.c`.  The child that reads
these commands has no rights of its own: whoever checks the password answers the
login call.
-/

namespace Vsftpd.Session

open Vsftpd.Lib

variable {W : Type}

/-- The settings that only the code before the login reads. -/
structure PreloginTunables extends Tunables where
  ftpEnable : Bool := true
  httpEnable : Bool := false
  localEnable : Bool := false
  implicitSsl : Bool := false
  allowAnonSsl : Bool := false
  forceLocalLoginsSsl : Bool := true
  forceAnonLoginsSsl : Bool := false
  userlistEnable : Bool := false
  userlistDeny : Bool := true
  noAnonPassword : Bool := false
  maxClients : Nat := 2000
  maxPerIp : Nat := 50
  delayFailedLogin : Nat := 1
  maxLoginFails : Nat := 3
  ftpdBanner : Option Bytes := none

def strContainsLine (s line : Bytes) : Bool := line ∈ linesFrom s (s.length + 1) 0

section
variable (cfg : PreloginTunables) (k : Kernel W)

/-! ## Failed logins -/

def checkLoginDelay : M W Unit := Prog.whenever (cfg.delayFailedLogin > 0) (sys k .sleep)

def checkLoginFails : M W Unit := do
  updateSession fun sess => { sess with loginFails := sess.loginFails + 1 }
  let sess ← getSess .session
  if sess.loginFails ≥ cfg.maxLoginFails then do
    sys k (.shutdown vsftpCommandFd)
    Prog.halt (.exit 1)
  else pure ()

def emptyUser : M W Unit := updateSession fun sess => { sess with userStr := [] }

/-! ## PASS -/

/-- `vsf_one_process_login` and `vsf_two_process_login`, which only return from a
login that fails. -/
def processLogin (pass : Bytes) : M W Unit := do
  let sess ← getSess .session
  let res ← sys k (.login sess.userStr pass sess.controlUseSsl sess.dataUseSsl)
  match res with
  | some true => Prog.halt .loggedIn
  | some false => pure ()
  | none =>
    if cfg.oneProcessModel then bug "bad state in vsf_one_process_login"
    else die "priv_sock_get_result"

def handlePassCommand : M W Unit := do
  let sess ← getSess .session
  if strIsempty sess.userStr then vsfCmdioWrite cfg.toTunables k 503 "Login with USER first."
  else do
    processLogin cfg k sess.ftpArgStr
    vsfCmdioWrite cfg.toTunables k 530 "Login incorrect."
    checkLoginFails cfg k
    emptyUser

/-! ## USER -/

def isAnonName (user : Bytes) : Bool :=
  strUpper user = bytes "FTP" ∨ strUpper user = bytes "ANONYMOUS"

/-- The user list refuses the name. -/
def userlistRefuses (sess : VsfSession) : Bool :=
  let located := strContainsLine sess.userlistStr sess.userStr
  (located && cfg.userlistDeny) || (!located && !cfg.userlistDeny)

def handleUserCommand : M W Unit := do
  updateSession fun sess =>
    { sess with userStr := sess.ftpArgStr, ftpArgStr := strUpper sess.ftpArgStr }
  let sess ← getSess .session
  let isAnon := isAnonName sess.userStr
  if !cfg.localEnable && !isAnon then do
    vsfCmdioWrite cfg.toTunables k 530 "This FTP server is anonymous only."
    emptyUser
  else if isAnon && sess.controlUseSsl && !cfg.allowAnonSsl && !cfg.forceAnonLoginsSsl then do
    vsfCmdioWrite cfg.toTunables k 530 "Anonymous sessions may not use encryption."
    emptyUser
  else if cfg.sslEnable && !isAnon && !sess.controlUseSsl && cfg.forceLocalLoginsSsl then
    vsfCmdioWriteExit cfg.toTunables k 530 "Non-anonymous sessions must use encryption." 1
  else if cfg.sslEnable && isAnon && !sess.controlUseSsl && cfg.forceAnonLoginsSsl then
    vsfCmdioWriteExit cfg.toTunables k 530 "Anonymous sessions must use encryption." 1
  else if cfg.userlistEnable && userlistRefuses cfg sess then do
    checkLoginDelay cfg k
    vsfCmdioWrite cfg.toTunables k 530 "Permission denied."
    checkLoginFails cfg k
    emptyUser
  else if isAnon && cfg.noAnonPassword then do
    updateSession fun sess => { sess with ftpArgStr := bytes "<no password>" }
    handlePassCommand cfg k
  else vsfCmdioWrite cfg.toTunables k 331 "Please specify the password."

/-! ## AUTH -/

/-- The text with which a failed handshake ends the process is the library's. -/
def sslControlHandshake : M W Unit := do
  let created ← sys k (.sslNew vsftpCommandFd)
  if created then do
    let accepted ← sys k (.sslHandshake vsftpCommandFd)
    if accepted then updateSession fun sess => { sess with controlUseSsl := true }
    else die "SSL_accept"
  else do
    let s ← Prog.get
    vsfCmdioWriteStr cfg.toTunables k 421 (bytes "Negotiation failed: " ++ k.sslError s.world)
    Prog.halt (.exit 1)

def authTypes : List Bytes := ["TLS", "TLS-C", "SSL", "TLS-P"].map bytes

def handleAuth : M W Unit := do
  let sess ← getSess .session
  let arg := strUpper sess.ftpArgStr
  updateSession fun sess => { sess with ftpArgStr := arg }
  if arg ∈ authTypes then do
    vsfCmdioWrite cfg.toTunables k 234 "Proceed with negotiation."
    sslControlHandshake cfg k
    Prog.whenever (arg = bytes "SSL" ∨ arg = bytes "TLS-P")
      (updateSession fun sess => { sess with dataUseSsl := true })
  else vsfCmdioWrite cfg.toTunables k 504 "Unknown AUTH type."

/-! ## GET -/

def handleGet : M W Unit := do
  updateSession fun sess =>
    { sess with
      isHttp := true
      httpGetArg := sess.ftpArgStr
      userStr := bytes "FTP"
      ftpArgStr := bytes "<http>" }
  handlePassCommand cfg k

def handleVerb : M W Unit := do
  let sess ← getSess .session
  if sess.ftpCmdStr = bytes "GET" then handleGet cfg k
  else vsfCmdioWrite cfg.toTunables k 530 "Bad HTTP verb."

/-! ## The loop -/

/-- AUTH is only known while the control connection is not encrypted. -/
def knowsAuth (sess : VsfSession) : Bool :=
  cfg.sslEnable && sess.ftpCmdStr = bytes "AUTH" && !sess.controlUseSsl

def handleFtpCommand : M W Unit := do
  let sess ← getSess .session
  let cmd := sess.ftpCmdStr
  if cmd = bytes "USER" then handleUserCommand cfg k
  else if cmd = bytes "PASS" then handlePassCommand cfg k
  else if cmd = bytes "QUIT" then vsfCmdioWriteExit cfg.toTunables k 221 "Goodbye." 0
  else if cmd = bytes "FEAT" then handleFeat cfg.toTunables k
  else if cmd = bytes "OPTS" then handleOpts cfg.toTunables k
  else if knowsAuth cfg sess then handleAuth cfg k
  else if cfg.sslEnable && cmd = bytes "PBSZ" then handlePbsz cfg.toTunables k
  else if cfg.sslEnable && cmd = bytes "PROT" then handleProt cfg.toTunables k
  else if strIsempty cmd && strIsempty sess.ftpArgStr then pure ()
  else vsfCmdioWrite cfg.toTunables k 530 "Please login with USER and PASS."

def servePrelogin : M W Unit :=
  if cfg.ftpEnable then handleFtpCommand cfg k
  else if cfg.httpEnable then do
    handleVerb cfg k
    Prog.halt (.exit 0)
  else pure ()

def preloginTurn : M W Unit := do
  vsfCmdioGetCmdAndArg cfg.toTunables k
  servePrelogin cfg k

/-- The first `n` commands. -/
def parseUsernamePassword (n : Nat) : M W Unit := Prog.iterate (preloginTurn cfg k) n

/-! ## The connection -/

def vsfLogLine (what : LogEntryType) (text : Bytes) : M W Unit := do
  sys k (.log true (some what) text)
  checkPendingActions cfg.toTunables k

/-- A connection that is refused. -/
def refuseConnection (reason : String) (status : FtpCode) (text : String) : M W Unit := do
  vsfLogLine cfg k .connection (bytes reason)
  vsfCmdioWriteExit cfg.toTunables k status text 1

def checkLimits : M W Unit := do
  let sess ← getSess .session
  if cfg.maxClients > 0 ∧ sess.numClients > cfg.maxClients then
    refuseConnection cfg k "Connection refused: too many sessions." 421
      "There are too many connected users, please try later."
  else if cfg.maxPerIp > 0 ∧ sess.numThisIp > cfg.maxPerIp then
    refuseConnection cfg k "Connection refused: too many sessions for this address." 421
      "There are too many connections from your internet address."
  else if !sess.tcpWrapperOk then
    refuseConnection cfg k "Connection refused: tcp_wrappers denial." 421
      "Service not available."
  else vsfLogLine cfg k .connection []

def emitGreeting : M W Unit := do
  let sess ← getSess .session
  if !strIsempty sess.bannerStr then do
    vsfBannerWrite cfg.toTunables k sess.bannerStr 220
    updateSession fun sess => { sess with bannerStr := [] }
    vsfCmdioWrite cfg.toTunables k 220 ""
  else
    match cfg.ftpdBanner with
    | none => vsfCmdioWrite cfg.toTunables k 220 "(vsFTPd 3.0.3)"
    | some banner => vsfCmdioWriteStr cfg.toTunables k 220 banner

def startConnection : M W Unit := do
  vsfCmdioSetAlarm cfg.toTunables
  checkLimits cfg k
  Prog.whenever (cfg.sslEnable = true ∧ cfg.implicitSsl = true) (sslControlHandshake cfg k)
  Prog.whenever (cfg.ftpEnable = true) (emitGreeting cfg k)

def initConnection (n : Nat) : M W Unit := do
  startConnection cfg k
  parseUsernamePassword cfg k n

end

/-- The state `init_connection` is called in. -/
def atConnection (sess : VsfSession) (world : W) : State W :=
  let fresh : VsfSession :=
    { localAddr := sess.localAddr
      remoteAddr := sess.remoteAddr
      anonFtpUid := sess.anonFtpUid
      guestUserUid := sess.guestUserUid
      anonUploadChownUid := sess.anonUploadChownUid
      remoteIpStr := sess.remoteIpStr
      numClients := sess.numClients
      numThisIp := sess.numThisIp
      userlistStr := sess.userlistStr
      bannerStr := sess.bannerStr
      tcpWrapperOk := sess.tcpWrapperOk }
  { session := fresh, parent := fresh, world := world }

end Vsftpd.Session
