import Vsftpd.Session.PostLogin

/-!
# The command loop

`process_post_login`.  The long `if` of its loop is a table of conditions and
commands in the order of the source; the first condition that holds decides.
-/

namespace Vsftpd.Session

open Vsftpd.Lib

variable {W : Type} (cfg : Tunables) (k : Kernel W)

/-! ## `cmds_allowed` and `cmds_denied` -/

/-- Whether a comma-separated text has the element; an empty element ends it. -/
def hasElement : Nat → Bytes → Bytes → Bool
  | 0, _, _ => false
  | n + 1, src, cmd =>
    let split := strSplitChar src comma
    if strIsempty split.1 then false
    else if split.1 = cmd then true
    else hasElement n split.2 cmd

def elementOf (list cmd : Bytes) : Bool := hasElement (list.length + 1) list cmd

def cmdOk (cmd : Bytes) : Bool :=
  (match cfg.cmdsAllowed with
    | none => true
    | some list => elementOf list cmd) &&
  (match cfg.cmdsDenied with
    | none => true
    | some list => !elementOf list cmd)

/-! ## The commands -/

inductive Command where
  | quit | pwd | cwd | cdup | pasv | epsv | retr | noop | syst | help | list | type | port | stor
  | mkd | rmd | dele | rest | rnfr | rnto | nlst | size | site | abor | appe | mdtm | eprt | stru
  | mode | stou | allo | rein | acct | smnt | feat | opts | stat | statFile | pbsz | prot | user
  | pass | denied | ignored | http | unknown
  deriving DecidableEq, Repr

/-- The commands that are known but may be switched off. -/
def knownCommands : List String :=
  ["PASV", "PORT", "STOR", "MKD", "XMKD", "RMD", "XRMD", "DELE", "RNFR", "RNTO", "SITE", "APPE",
   "EPSV", "EPRT", "RETR", "LIST", "NLST", "STOU", "ALLO", "REIN", "ACCT", "SMNT", "FEAT", "OPTS",
   "STAT", "PBSZ", "PROT"]

/-- `tunable_write_enable && (tunable || !p_sess->is_anonymous)` -/
def mayWrite (sess : VsfSession) (tunable : Bool) : Bool :=
  cfg.writeEnable && (tunable || !sess.isAnonymous)

def isCmd (sess : VsfSession) (names : List String) : Bool :=
  names.any fun name => sess.ftpCmdStr = bytes name

def commandTable (sess : VsfSession) : List (Bool × Command) :=
  [(isCmd sess ["QUIT"], .quit),
   (isCmd sess ["PWD", "XPWD"], .pwd),
   (isCmd sess ["CWD", "XCWD"], .cwd),
   (isCmd sess ["CDUP", "XCUP"], .cdup),
   (cfg.pasvEnable && !sess.epsvAll && isCmd sess ["PASV", "P@SW"], .pasv),
   (cfg.pasvEnable && isCmd sess ["EPSV"], .epsv),
   (cfg.downloadEnable && isCmd sess ["RETR"], .retr),
   (isCmd sess ["NOOP"], .noop),
   (isCmd sess ["SYST"], .syst),
   (isCmd sess ["HELP"], .help),
   (cfg.dirlistEnable && isCmd sess ["LIST"], .list),
   (isCmd sess ["TYPE"], .type),
   (cfg.portEnable && !sess.epsvAll && isCmd sess ["PORT"], .port),
   (mayWrite cfg sess cfg.anonUploadEnable && isCmd sess ["STOR"], .stor),
   (mayWrite cfg sess cfg.anonMkdirWriteEnable && isCmd sess ["MKD", "XMKD"], .mkd),
   (mayWrite cfg sess cfg.anonOtherWriteEnable && isCmd sess ["RMD", "XRMD"], .rmd),
   (mayWrite cfg sess cfg.anonOtherWriteEnable && isCmd sess ["DELE"], .dele),
   (isCmd sess ["REST"], .rest),
   (mayWrite cfg sess cfg.anonOtherWriteEnable && isCmd sess ["RNFR"], .rnfr),
   (mayWrite cfg sess cfg.anonOtherWriteEnable && isCmd sess ["RNTO"], .rnto),
   (cfg.dirlistEnable && isCmd sess ["NLST"], .nlst),
   (isCmd sess ["SIZE"], .size),
   (!sess.isAnonymous && isCmd sess ["SITE"], .site),
   (isCmd sess ["ABOR"] || sess.ftpCmdStr = [255, 244, 255, 242] ++ bytes "ABOR", .abor),
   (mayWrite cfg sess cfg.anonOtherWriteEnable && isCmd sess ["APPE"], .appe),
   (isCmd sess ["MDTM"], .mdtm),
   (cfg.portEnable && isCmd sess ["EPRT"], .eprt),
   (isCmd sess ["STRU"], .stru),
   (isCmd sess ["MODE"], .mode),
   (mayWrite cfg sess cfg.anonUploadEnable && isCmd sess ["STOU"], .stou),
   (isCmd sess ["ALLO"], .allo),
   (isCmd sess ["REIN"], .rein),
   (isCmd sess ["ACCT"], .acct),
   (isCmd sess ["SMNT"], .smnt),
   (isCmd sess ["FEAT"], .feat),
   (isCmd sess ["OPTS"], .opts),
   (isCmd sess ["STAT"] && strIsempty sess.ftpArgStr, .stat),
   (cfg.dirlistEnable && isCmd sess ["STAT"], .statFile),
   (cfg.sslEnable && isCmd sess ["PBSZ"], .pbsz),
   (cfg.sslEnable && isCmd sess ["PROT"], .prot),
   (isCmd sess ["USER"], .user),
   (isCmd sess ["PASS"], .pass),
   (isCmd sess knownCommands, .denied),
   (strIsempty sess.ftpCmdStr && strIsempty sess.ftpArgStr, .ignored),
   (isCmd sess ["GET", "POST", "HEAD", "OPTIONS", "CONNECT"], .http)]

def firstCommand : List (Bool × Command) → Command
  | [] => .unknown
  | (true, command) :: _ => command
  | (false, _) :: rest => firstCommand rest

def commandFor (sess : VsfSession) : Command := firstCommand (commandTable cfg sess)

def runCommand : Command → M W Unit
  | .quit => vsfCmdioWriteExit cfg k 221 "Goodbye." 0
  | .pwd => handlePwd cfg k
  | .cwd => handleCwd cfg k
  | .cdup => handleCdup cfg k
  | .pasv => handlePasv cfg k false
  | .epsv => handlePasv cfg k true
  | .retr => handleRetr cfg k
  | .noop => vsfCmdioWrite cfg k 200 "NOOP ok."
  | .syst => vsfCmdioWrite cfg k 215 "UNIX Type: L8"
  | .help => handleHelp cfg k
  | .list => handleList cfg k
  | .type => handleType cfg k
  | .port => handlePort cfg k
  | .stor => handleStor cfg k
  | .mkd => handleMkd cfg k
  | .rmd => handleRmd cfg k
  | .dele => handleDele cfg k
  | .rest => handleRest cfg k
  | .rnfr => handleRnfr cfg k
  | .rnto => handleRnto cfg k
  | .nlst => handleNlst cfg k
  | .size => handleSize cfg k
  | .site => handleSite cfg k
  | .abor => vsfCmdioWrite cfg k 225 "No transfer to ABOR."
  | .appe => handleAppe cfg k
  | .mdtm => handleMdtm cfg k
  | .eprt => handleEprt cfg k
  | .stru => handleOnlyArg cfg k "F" "Structure set to F." "Bad STRU command."
  | .mode => handleOnlyArg cfg k "S" "Mode set to S." "Bad MODE command."
  | .stou => handleStou cfg k
  | .allo => vsfCmdioWrite cfg k 202 "ALLO command ignored."
  | .rein => vsfCmdioWrite cfg k 502 "REIN not implemented."
  | .acct => vsfCmdioWrite cfg k 502 "ACCT not implemented."
  | .smnt => vsfCmdioWrite cfg k 502 "SMNT not implemented."
  | .feat => handleFeat cfg k
  | .opts => handleOpts cfg k
  | .stat => handleStat cfg k
  | .statFile => handleStatFile cfg k
  | .pbsz => handlePbsz cfg k
  | .prot => handleProt cfg k
  | .user => handleLoggedInUser cfg k
  | .pass => handleLoggedInPass cfg k
  | .denied => noPermission cfg k
  | .ignored => pure ()
  | .http => vsfCmdioWriteExit cfg k 500 "HTTP protocol commands not allowed." 1
  | .unknown => vsfCmdioWrite cfg k 500 "Unknown command."

/-! ## The loop -/

/-- What is done with the command that was read. -/
def dispatch : M W Unit := do
  let sess ← getSess .session
  if !cmdOk cfg sess.ftpCmdStr then noPermission cfg k
  else runCommand cfg k (commandFor cfg sess)

/-- The end of a round: a log entry that is pending is a failure. -/
def finishCommand : M W Unit := do
  let before ← getSess .session
  Prog.whenever (before.logType ≠ none) (vsfLogDoLog cfg k false)
  let sess ← getSess .session
  if sess.dataTimeout then
    vsfCmdioWriteExit cfg k 421 "Data timeout. Reconnect. Sorry." 1
  else pure ()

def serveCommand : M W Unit := do
  dispatch cfg k
  finishCommand cfg k

def postLoginTurn : M W Unit := do
  vsfCmdioGetCmdAndArg cfg k
  serveCommand cfg k

def initialUmask (sess : VsfSession) : Nat :=
  (if sess.isAnonymous then cfg.anonUmask else cfg.localUmask) % 0o1000

def initialRate (sess : VsfSession) : Nat :=
  if sess.isAnonymous then cfg.anonMaxRate else cfg.localMaxRate

def activateSigurg : M W Unit := do
  Prog.modify fun s => { s with sigurgHandler := true }
  let ok ← sys k (.fcntlFlags vsftpCommandFd)
  if ok then pure () else die "fcntl"

/-- What comes before the loop. -/
def startPostLogin : M W Unit := do
  let s ← Prog.get
  updateSession fun sess =>
    { sess with
      homeStr := (k.pathEnv s.world).getcwd
      bwRateMax := initialRate cfg sess }
  Prog.modify fun s => { s with umask := initialUmask cfg s.session }
  Prog.whenever (cfg.asyncAborEnable = true ∧ s.session.controlUseSsl = false) (activateSigurg k)
  vsfBannerDirChanged cfg k 230
  vsfCmdioWrite cfg k 230 "Login successful."

/-- `n` commands are served. -/
def processPostLogin (n : Nat) : M W Unit := do
  startPostLogin cfg k
  Prog.iterate (postLoginTurn cfg k) n

end Vsftpd.Session
