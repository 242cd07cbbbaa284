import Vsftpd.Lib.Traced
import Vsftpd.Convert
import Vsftpd.Session.State
import Vsftpd.MyStr.Lines

/-!
# The log files

`logging.c`.  A record is put together in a static buffer from texts of which the client
chooses some.  While the log file is being locked, and after the record has gone to it, a
pending signal may have a command read and answered, with log records of its own from the
same buffer; the record is made printable in between.
-/

namespace Vsftpd.Logging

open Vsftpd.Lib
open Vsftpd.Session (Halt)

/-! ## Printable characters -/

/-- `isprint(3)` in the locale C. -/
def isprint (c : UInt8) : Bool := 32 ≤ c ∧ c ≤ 126

def vsfSysutilIsprint (c : UInt8) : Bool :=
  if c ≤ 31 then false
  else if c = 177 then false
  else if c ≥ 128 ∧ c ≤ 159 then false
  else isprint c

def strReplaceUnprintable (s : Bytes) (newChar : UInt8) : Bytes :=
  s.map fun c => if vsfSysutilIsprint c then c else newChar

/-! ## Sessions -/

/-- `enum EVSFLogEntryType`; 0, for no entry, is not one of its values. -/
inductive EVSFLogEntryType where
  | null
  | download
  | upload
  | mkdir
  | login
  | ftpInput
  | ftpOutput
  | connection
  | delete
  | rename
  | rmdir
  | chmod
  | debug
  deriving DecidableEq, Repr

def vsfLogTypeIsTransfer (type : Option EVSFLogEntryType) : Bool :=
  type = some .download ∨ type = some .upload

/-- The settings that the log depends on. -/
structure Tunables where
  syslogEnable : Bool := false
  noLogLock : Bool := false

/-- `struct vsf_session`, as far as the log and the login use it. -/
structure LogSession where
  xferlogFd : Int := -1
  vsftpdLogFd : Int := -1
  logType : Option EVSFLogEntryType := none
  logStartSec : Int := 0
  logStartUsec : Int := 0
  transferSize : Int := 0
  logStr : Bytes := []
  dataFd : Int := -1
  isAscii : Bool := false
  isAnonymous : Bool := false
  isGuest : Bool := false
  remoteIpStr : Bytes := []
  userStr : Bytes := []
  anonPassStr : Bytes := []
  bannedEmailStr : Bytes := []
  emailPasswordsStr : Bytes := []
  deriving DecidableEq

/-- A line to log that is not about a transfer. -/
structure LogLine where
  what : Option EVSFLogEntryType
  text : Bytes
  plain : vsfLogTypeIsTransfer what = false

/-- What `handle_sigurg` logs, and whether the session ends in it. -/
structure Urgent where
  lines : List LogLine := []
  exits : Bool := false

/-- What the system gives for one record. -/
structure Readings where
  currentDate : Bytes := []
  timeSec : Int := 0
  timeUsec : Int := 0
  pid : Nat := 0
  locked : Bool := true
  unlocked : Bool := true
  whileLocking : Urgent := {}
  afterWriting : Urgent := {}

/-- The system, and `str_append_double` of the rate for a size and a time. -/
structure Env (W : Type) where
  read : W → Readings × W
  kbyteRate : Int → Int → Int → Bytes

inductive LogFile where
  | xferlog
  | vsftpdLog
  deriving DecidableEq, Repr

/-- A text that is handed to the system for a log file, with the session, the readings and
the outcome that it tells of. -/
structure LogRecord where
  log : LogFile
  sess : LogSession
  now : Readings
  succeeded : Bool
  text : Bytes

/-- `s_log_str` is static. -/
structure LogState (W : Type) where
  sess : LogSession
  sLogStr : Bytes := []
  world : W

abbrev M (W : Type) := Prog LogRecord (LogState W) Halt

/-! ## The two formats -/

def vsfLogDoLogWuftpdFormat (sess : LogSession) (now : Readings) (succeeded : Bool) : Bytes :=
  let what := sess.logType
  let deltaSec := now.timeSec - sess.logStartSec
  let deltaSec := if deltaSec ≤ 0 then 1 else deltaSec
  now.currentDate ++ [32] ++
    vsfSysutilUlongToStr deltaSec.toNat ++ [32] ++
    sess.remoteIpStr ++ [32] ++
    vsfSysutilFilesizeTToStr sess.transferSize ++ [32] ++
    strReplaceChar sess.logStr 32 95 ++ [32] ++
    (if sess.isAscii then bytes "a " else bytes "b ") ++
    bytes "_ " ++
    (if what = some .upload then bytes "i " else bytes "o ") ++
    (if sess.isAnonymous ∧ ¬ sess.isGuest then bytes "a " ++ sess.anonPassStr
      else (if sess.isGuest then bytes "g " else bytes "r ") ++ sess.userStr) ++ [32] ++
    bytes "ftp 0 * " ++
    (if succeeded then [99] else [105])

/-- There is no name for an entry of no type. -/
def actionText : Option EVSFLogEntryType → Option Bytes
  | some .download => some (bytes "DOWNLOAD")
  | some .upload => some (bytes "UPLOAD")
  | some .mkdir => some (bytes "MKDIR")
  | some .login => some (bytes "LOGIN")
  | some .ftpInput => some (bytes "FTP command")
  | some .ftpOutput => some (bytes "FTP response")
  | some .connection => some (bytes "CONNECT")
  | some .delete => some (bytes "DELETE")
  | some .rename => some (bytes "RENAME")
  | some .rmdir => some (bytes "RMDIR")
  | some .chmod => some (bytes "CHMOD")
  | some .debug => some (bytes "DEBUG")
  | some .null => none
  | none => none

def quoted (s : Bytes) : Bytes := [34] ++ s ++ [34]

section
variable {W : Type} (cfg : Tunables) (env : Env W)

def vsfLogDoLogVsftpdFormat (sess : LogSession) (now : Readings) (succeeded : Bool)
    (what : Option EVSFLogEntryType) (logStr : Bytes) : Option Bytes :=
  let isProtocol := what = some .ftpInput ∨ what = some .ftpOutput
  (actionText what).map fun action =>
    (if cfg.syslogEnable then []
      else now.currentDate ++ bytes " [pid " ++ vsfSysutilUlongToStr now.pid ++ bytes "] ") ++
    (if strIsempty sess.userStr then [] else [91] ++ sess.userStr ++ bytes "] ") ++
    (if isProtocol ∨ what = some .connection ∨ what = some .debug then []
      else if succeeded then bytes "OK " else bytes "FAIL ") ++
    action ++
    bytes ": Client " ++ quoted sess.remoteIpStr ++
    (if what = some .login ∧ ¬ strIsempty sess.anonPassStr then
      bytes ", anon password " ++ quoted sess.anonPassStr else []) ++
    (if strIsempty logStr then [] else bytes ", " ++ quoted logStr) ++
    (if isProtocol ∨ what = some .debug then []
      else
        (if sess.transferSize ≠ 0 then
          bytes ", " ++ vsfSysutilFilesizeTToStr sess.transferSize ++ bytes " bytes" else []) ++
        (if vsfLogTypeIsTransfer what then
          bytes ", " ++ env.kbyteRate sess.transferSize (now.timeSec - sess.logStartSec)
            (now.timeUsec - sess.logStartUsec) ++ bytes "Kbyte/sec" else []))

/-! ## Writing records -/

def readings : M W Readings := do
  let s ← Prog.get
  Prog.modify fun s => { s with world := (env.read s.world).2 }
  pure (env.read s.world).1

def setLogStr (text : Bytes) : M W Unit := Prog.modify fun s => { s with sLogStr := text }

def updateSess (f : LogSession → LogSession) : M W Unit :=
  Prog.modify fun s => { s with sess := f s.sess }

def logText (s : LogState W) : Bytes := strReplaceUnprintable s.sLogStr 63 ++ [10]

/-- The record goes to the file as it is now in the buffer. -/
def writeRecord (log : LogFile) (sess : LogSession) (now : Readings) (succeeded : Bool) :
    M W Unit :=
  Prog.emit (fun s => ⟨log, sess, now, succeeded, logText s⟩)
    fun s => ((), { s with sLogStr := logText s })

/-- `checkPending` is what `vsf_sysutil_check_pending_actions` has run. -/
def vsfLogDoLogToFile (checkPending : Urgent → M W Unit) (log : LogFile) (sess : LogSession)
    (now : Readings) (succeeded : Bool) : M W Unit := do
  Prog.whenever (cfg.noLogLock = false) (checkPending now.whileLocking)
  Prog.whenever (cfg.noLogLock = true ∨ now.locked = true) do
    writeRecord log sess now succeeded
    checkPending now.afterWriting
    Prog.whenever (cfg.noLogLock = false ∧ now.unlocked = false) (Prog.halt (.die "fcntl"))

/-- Formats a line in the static buffer, and gives the session and the readings that it is
made from. -/
def formatLine (succeeded : Bool) (what : Option EVSFLogEntryType) (text : Bytes) :
    M W (LogSession × Readings) := do
  let now ← readings env
  let s ← Prog.get
  match vsfLogDoLogVsftpdFormat cfg env s.sess now succeeded what text with
  | none => Prog.halt (.bug "bad entry_type in vsf_log_do_log")
  | some line =>
    setLogStr line
    pure (s.sess, now)

def logXferlog (checkPending : Urgent → M W Unit) (succeeded : Bool) : M W Unit := do
  let now ← readings env
  let s ← Prog.get
  setLogStr (vsfLogDoLogWuftpdFormat s.sess now succeeded)
  vsfLogDoLogToFile cfg checkPending .xferlog s.sess now succeeded

def logVsftpdLog (checkPending : Urgent → M W Unit) (succeeded : Bool)
    (what : Option EVSFLogEntryType) (text : Bytes) : M W Unit := do
  let made ← formatLine cfg env succeeded what text
  vsfLogDoLogToFile cfg checkPending .vsftpdLog made.1 made.2 succeeded

def vsfLogCommonWith (checkPending : Urgent → M W Unit) (succeeded : Bool)
    (what : Option EVSFLogEntryType) (text : Bytes) : M W Unit := do
  let s ← Prog.get
  Prog.whenever (s.sess.xferlogFd ≠ -1 ∧ vsfLogTypeIsTransfer what = true)
    (logXferlog cfg env checkPending succeeded)
  let s ← Prog.get
  Prog.whenever (s.sess.vsftpdLogFd ≠ -1) (logVsftpdLog cfg env checkPending succeeded what text)
  Prog.whenever (cfg.syslogEnable = true) (formatLine cfg env succeeded what text *> pure ())

/-- `handle_sigurg`, which does nothing without a data connection.  A handler that is
running is not run again. -/
def handleSigurg (urgent : Urgent) : M W Unit := do
  let s ← Prog.get
  Prog.whenever (s.sess.dataFd ≠ -1) do
    Prog.forEach (fun l => vsfLogCommonWith cfg env (fun _ => pure ()) true l.what l.text)
      urgent.lines
    Prog.whenever (urgent.exits = true) (Prog.halt (.exit 1))

def vsfLogCommon (succeeded : Bool) (what : Option EVSFLogEntryType) (text : Bytes) : M W Unit :=
  vsfLogCommonWith cfg env (handleSigurg cfg env) succeeded what text

/-! ## Entries -/

def vsfLogLine (l : LogLine) : M W Unit := vsfLogCommon cfg env true l.what l.text

def vsfLogStartEntry (what : EVSFLogEntryType) : M W Unit := do
  let s ← Prog.get
  if s.sess.logType ≠ none then Prog.halt (.bug "non null log_type in vsf_log_start_entry")
  else do
    updateSess fun sess =>
      { sess with
        logType := some what
        logStartSec := 0
        logStartUsec := 0
        transferSize := 0
        logStr := [] }
    Prog.whenever (vsfLogTypeIsTransfer (some what) = true) do
      let now ← readings env
      updateSess fun sess => { sess with logStartSec := now.timeSec, logStartUsec := now.timeUsec }

def vsfLogEntryPending (sess : LogSession) : Bool := sess.logType ≠ none

def vsfLogClearEntry : M W Unit := updateSess fun sess => { sess with logType := none }

def vsfLogDoLog (succeeded : Bool) : M W Unit := do
  let s ← Prog.get
  vsfLogCommon cfg env succeeded s.sess.logType s.sess.logStr
  updateSess fun sess => { sess with logType := none }

/-! ## Sessions that log -/

/-- A data connection, with the lines that are logged while it is there. -/
structure Connection where
  fd : Int
  lines : List LogLine

def initDataSockParams (sockFd : Int) : M W Unit := do
  let s ← Prog.get
  if s.sess.dataFd ≠ -1 then
    Prog.halt (.bug "data descriptor still present in init_data_sock_params")
  else updateSess fun sess => { sess with dataFd := sockFd }

def disposeTransferFd : M W Unit := do
  let s ← Prog.get
  if s.sess.dataFd = -1 then
    Prog.halt (.bug "no data descriptor in vsf_ftpdataio_dispose_transfer_fd")
  else updateSess fun sess => { sess with dataFd := -1 }

def useConnection (c : Connection) : M W Unit := do
  initDataSockParams c.fd
  Prog.forEach (vsfLogLine cfg env) c.lines
  disposeTransferFd

/-- A line of the control connection, or a data connection that comes and goes. -/
inductive Exchange where
  | line (l : LogLine)
  | data (c : Connection)

def runExchange : Exchange → M W Unit
  | .line l => vsfLogLine cfg env l
  | .data c => useConnection cfg env c

/-- How a command leaves its entry. -/
inductive Ending where
  | logged
  | cleared
  | pending
  deriving DecidableEq, Repr

/-- A command with an entry in the log: what it does, the text of the entry, what is
exchanged while it is pending, the size and the outcome of the transfer. -/
structure Entry where
  what : EVSFLogEntryType
  text : Bytes
  exchanges : List Exchange := []
  transferred : Int := 0
  ending : Ending

def runEntry (e : Entry) : M W Unit := do
  vsfLogStartEntry env e.what
  updateSess fun sess => { sess with logStr := e.text }
  Prog.forEach (runExchange cfg env) e.exchanges
  updateSess fun sess => { sess with transferSize := e.transferred }
  match e.ending with
  | .logged => vsfLogDoLog cfg env true
  | .cleared => vsfLogClearEntry
  | .pending => pure ()

/-- What a session does that the log sees. -/
inductive LogStep where
  | exchange (x : Exchange)
  | ascii (on : Bool)
  | entry (e : Entry)

def logStep : LogStep → M W Unit
  | .exchange x => runExchange cfg env x
  | .ascii on => updateSess fun sess => { sess with isAscii := on }
  | .entry e => do
    runEntry cfg env e
    let s ← Prog.get
    -- the end of a round of the command loop
    Prog.whenever (vsfLogEntryPending s.sess = true) (vsfLogDoLog cfg env false)

def logRun (steps : List LogStep) : M W Unit := Prog.forEach (logStep cfg env) steps

end

/-! ## What a record is -/

/-- A line of printable characters with its newline. -/
structure IsRecord (text : Bytes) : Prop where
  oneNewline : text.count 10 = 1
  ends : text.getLast? = some 10
  printable : ∀ c ∈ text.dropLast, vsfSysutilIsprint c = true

section
variable {W : Type} {cfg : Tunables} {env : Env W} {s : LogState W} {c : UInt8}
  {what : Option EVSFLogEntryType} {chk : Urgent → M W Unit}

theorem isprint_of_mem_replaceUnprintable {text : Bytes} (h : c ∈ strReplaceUnprintable text 63) :
    vsfSysutilIsprint c = true := by
  obtain ⟨d, _, rfl⟩ := List.mem_map.mp h
  split_ifs with hd
  · exact hd
  · rfl

theorem newline_not_printable : vsfSysutilIsprint 10 = false := rfl

theorem isRecord_of_printable {text : Bytes} (h : ∀ c ∈ text, vsfSysutilIsprint c = true) :
    IsRecord (text ++ [10]) := by
  have hline : 10 ∉ text := fun hmem =>
    absurd (h 10 hmem) (by rw [newline_not_printable]; exact Bool.false_ne_true)
  constructor
  · rw [List.count_append, List.count_eq_zero_of_not_mem hline, List.count_singleton_self]
  · exact List.getLast?_concat
  · rwa [List.dropLast_concat]

theorem isRecord_logText (s : LogState W) : IsRecord (logText s) :=
  isRecord_of_printable fun _ h => isprint_of_mem_replaceUnprintable h

/-! ## The buffer -/

section
variable {V : Type} {view : LogState W → V} {ok : V → LogRecord → Prop} {halts : Halt → Prop}

/-- The buffer and the system are not part of what is seen. -/
def Unbuffered (view : LogState W → V) : Prop :=
  ∀ (s : LogState W) (text : Bytes) (world : W),
    view { s with sLogStr := text, world := world } = view s

theorem quiet_readings (hview : Unbuffered view) : Quiet view ok halts (readings env) := by
  apply Quiet.bind Quiet.get
  intro s
  apply Quiet.bind
  · exact Quiet.modify fun s => hview s s.sLogStr _
  · intro _
    exact Quiet.pure _

theorem quiet_setLogStr (hview : Unbuffered view) (text : Bytes) :
    Quiet view ok halts (setLogStr text : M W Unit) :=
  Quiet.modify fun s => hview s text s.world

theorem quiet_formatLine (hview : Unbuffered view) (hhalts : ∀ h, halts h) (succeeded : Bool)
    (what : Option EVSFLogEntryType) (text : Bytes) :
    Quiet view ok halts (formatLine cfg env succeeded what text) := by
  apply Quiet.bind (quiet_readings hview)
  intro now
  apply Quiet.bind Quiet.get
  intro s
  cases vsfLogDoLogVsftpdFormat cfg env s.sess now succeeded what text with
  | none => exact Quiet.halt (hhalts _)
  | some line =>
      apply Quiet.bind (quiet_setLogStr hview line)
      intro _
      exact Quiet.pure _

theorem quiet_toFile (hview : Unbuffered view) (hhalts : ∀ h, halts h)
    (hchk : ∀ u, Quiet view ok halts (chk u)) {log : LogFile} {sess : LogSession}
    {now : Readings} {succeeded : Bool}
    (hrecord : ∀ s, ok (view s) ⟨log, sess, now, succeeded, logText s⟩) :
    Quiet view ok halts (vsfLogDoLogToFile cfg chk log sess now succeeded) := by
  apply Quiet.bind (Quiet.whenever (hchk _))
  intro _
  apply Quiet.whenever
  apply Quiet.bind
  · exact Quiet.emit hrecord fun s => hview s (logText s) s.world
  · intro _
    apply Quiet.bind (hchk _)
    intro _
    exact Quiet.whenever (Quiet.halt (hhalts _))

end

/-! ## Every record of every run -/

/-- The program writes records only, from whatever is in the buffer. -/
def WritesRecords {α : Type} (m : M W α) : Prop :=
  Quiet (fun _ => ()) (fun _ r => IsRecord r.text) (fun _ => True) m

theorem unbuffered_unit : Unbuffered (fun _ : LogState W => ()) := fun _ _ _ => rfl

theorem writesRecords_modify (f : LogState W → LogState W) :
    WritesRecords (Prog.modify f : M W Unit) :=
  Quiet.modify fun _ => rfl

theorem writesRecords_halt {α : Type} (h : Halt) : WritesRecords (Prog.halt h : M W α) :=
  Quiet.halt trivial

theorem writesRecords_formatLine (ok : Bool) (what : Option EVSFLogEntryType) (text : Bytes) :
    WritesRecords (formatLine cfg env ok what text) :=
  quiet_formatLine unbuffered_unit (fun _ => trivial) ok what text

theorem writesRecords_toFile (hchk : ∀ u, WritesRecords (chk u)) (log : LogFile)
    (sess : LogSession) (now : Readings) (ok : Bool) :
    WritesRecords (vsfLogDoLogToFile cfg chk log sess now ok) :=
  quiet_toFile unbuffered_unit (fun _ => trivial) hchk fun s => isRecord_logText s

theorem writesRecords_commonWith (hchk : ∀ u, WritesRecords (chk u)) (ok : Bool)
    (what : Option EVSFLogEntryType) (text : Bytes) :
    WritesRecords (vsfLogCommonWith cfg env chk ok what text) := by
  apply Quiet.bind Quiet.get
  intro s
  apply Quiet.bind
  · apply Quiet.whenever
    apply Quiet.bind (quiet_readings unbuffered_unit)
    intro now
    apply Quiet.bind Quiet.get
    intro s
    apply Quiet.bind (writesRecords_modify _)
    intro _
    exact writesRecords_toFile hchk _ _ _ _
  · intro _
    apply Quiet.bind Quiet.get
    intro s
    apply Quiet.bind
    · apply Quiet.whenever
      apply Quiet.bind (writesRecords_formatLine ok what text)
      intro made
      exact writesRecords_toFile hchk _ _ _ _
    · intro _
      apply Quiet.whenever
      apply Quiet.bind (writesRecords_formatLine ok what text)
      intro _
      exact Quiet.pure _

theorem writesRecords_handleSigurg (u : Urgent) : WritesRecords (handleSigurg cfg env u) := by
  apply Quiet.bind Quiet.get
  intro s
  apply Quiet.whenever
  apply Quiet.bind
  · exact Quiet.forEach (fun l => writesRecords_commonWith (fun _ => Quiet.pure _) _ _ _) _
  · intro _
    exact Quiet.whenever (writesRecords_halt _)

theorem writesRecords_common (ok : Bool) (what : Option EVSFLogEntryType) (text : Bytes) :
    WritesRecords (vsfLogCommon cfg env ok what text) :=
  writesRecords_commonWith writesRecords_handleSigurg ok what text

theorem writesRecords_doLog (ok : Bool) : WritesRecords (vsfLogDoLog cfg env ok) := by
  apply Quiet.bind Quiet.get
  intro s
  apply Quiet.bind (writesRecords_common _ _ _)
  intro _
  exact writesRecords_modify _

theorem writesRecords_startEntry (what : EVSFLogEntryType) :
    WritesRecords (vsfLogStartEntry env what) := by
  apply Quiet.bind Quiet.get
  intro s
  apply Quiet.ite (writesRecords_halt _)
  apply Quiet.bind (writesRecords_modify _)
  intro _
  apply Quiet.whenever
  apply Quiet.bind (quiet_readings unbuffered_unit)
  intro now
  exact writesRecords_modify _

theorem writesRecords_useConnection (c : Connection) :
    WritesRecords (useConnection cfg env c) := by
  apply Quiet.bind
  · apply Quiet.bind Quiet.get
    intro s
    exact Quiet.ite (writesRecords_halt _) (writesRecords_modify _)
  · intro _
    apply Quiet.bind
    · exact Quiet.forEach (fun l => writesRecords_common _ _ _) _
    · intro _
      apply Quiet.bind Quiet.get
      intro s
      exact Quiet.ite (writesRecords_halt _) (writesRecords_modify _)

theorem writesRecords_exchange (x : Exchange) : WritesRecords (runExchange cfg env x) := by
  cases x with
  | line l => exact writesRecords_common _ _ _
  | data c => exact writesRecords_useConnection c

theorem writesRecords_runEntry (e : Entry) : WritesRecords (runEntry cfg env e) := by
  apply Quiet.bind (writesRecords_startEntry _)
  intro _
  apply Quiet.bind (writesRecords_modify _)
  intro _
  apply Quiet.bind (Quiet.forEach writesRecords_exchange _)
  intro _
  apply Quiet.bind (writesRecords_modify _)
  intro _
  cases e.ending with
  | logged => exact writesRecords_doLog true
  | cleared => exact writesRecords_modify _
  | pending => exact Quiet.pure _

theorem writesRecords_step (step : LogStep) : WritesRecords (logStep cfg env step) := by
  cases step with
  | exchange x => exact writesRecords_exchange x
  | ascii on => exact writesRecords_modify _
  | entry e =>
      apply Quiet.bind (writesRecords_runEntry e)
      intro _
      apply Quiet.bind Quiet.get
      intro s
      exact Quiet.whenever (writesRecords_doLog false)

theorem writesRecords_run (steps : List LogStep) : WritesRecords (logRun cfg env steps) :=
  Quiet.forEach writesRecords_step steps

theorem isRecord_of_mem_run {steps : List LogStep} {r : LogRecord}
    (h : r ∈ (logRun cfg env steps s).1) : IsRecord r.text :=
  (writesRecords_run steps () s rfl).1 r h

/-! ## Log files -/

/-- What the records add to a log file. -/
def logFileText (log : LogFile) (rs : List LogRecord) : Bytes :=
  ((rs.filter fun r => r.log = log).map LogRecord.text).flatten

theorem IsRecord.eq_concat {text : Bytes} (h : IsRecord text) : text = text.dropLast ++ [10] :=
  (List.dropLast_append_getLast? 10 h.ends).symm

theorem IsRecord.newline_not_mem {text : Bytes} (h : IsRecord text) : 10 ∉ text.dropLast :=
  fun hmem => absurd (h.printable 10 hmem) (by rw [newline_not_printable]; exact Bool.false_ne_true)

theorem pieces_flatten {texts : List Bytes} (h : ∀ text ∈ texts, IsRecord text) :
    MyStr.pieces texts.flatten = texts.map List.dropLast := by
  induction texts with
  | nil => rfl
  | cons text texts ih =>
      obtain ⟨htext, htexts⟩ := List.forall_mem_cons.mp h
      rw [List.flatten_cons, htext.eq_concat, List.append_assoc, List.singleton_append,
        MyStr.pieces_append htext.newline_not_mem, ih htexts, List.map_cons, List.dropLast_concat]

/-- The lines of a log file are the records that a session has written to it, one for each. -/
theorem pieces_logFileText (log : LogFile) (steps : List LogStep) (s : LogState W) :
    MyStr.pieces (logFileText log (logRun cfg env steps s).1) =
      ((logRun cfg env steps s).1.filter fun r => r.log = log).map fun r => r.text.dropLast := by
  unfold logFileText
  rw [pieces_flatten, List.map_map]
  · rfl
  · intro text htext
    obtain ⟨r, hr, rfl⟩ := List.mem_map.mp htext
    exact isRecord_of_mem_run (List.mem_of_mem_filter hr)

end

end Vsftpd.Logging
