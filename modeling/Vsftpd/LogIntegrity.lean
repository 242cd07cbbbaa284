import Vsftpd.XferlogFields

/-!
# The integrity of the log

What a session that logs does to the transfer log: its records are made and written while
there is no data connection, when no pending signal can bring other lines into the buffer.
-/

namespace Vsftpd.Logging

open Vsftpd.Lib
open Vsftpd.Session (Halt)

/-! ## Lines beside the transfers -/

section
variable {W : Type} {cfg : Tunables} {env : Env W} {s : LogState W} {start : LogSession}
  {chk : Urgent → M W Unit} {R : Requirement LogRecord Halt}

/-- The session stays as it is, and nothing goes to the transfer log. -/
def Beside {α : Type} (m : M W α) : Prop :=
  Quiet (fun s => s.sess) (fun _ r => r.log ≠ .xferlog) (fun _ => True) m

theorem unbuffered_sess : Unbuffered (fun s : LogState W => s.sess) := fun _ _ _ => rfl

theorem beside_readings : Beside (readings env) := quiet_readings unbuffered_sess

theorem beside_formatLine (ok : Bool) (what : Option EVSFLogEntryType) (text : Bytes) :
    Beside (formatLine cfg env ok what text) :=
  quiet_formatLine unbuffered_sess (fun _ => trivial) ok what text

theorem beside_vsftpdLog (hchk : ∀ u, Beside (chk u)) (ok : Bool)
    (what : Option EVSFLogEntryType) (text : Bytes) :
    Beside (logVsftpdLog cfg env chk ok what text) := by
  apply Quiet.bind (beside_formatLine ok what text)
  intro made
  apply quiet_toFile unbuffered_sess (fun _ => trivial) hchk
  intro _ hlog
  exact LogFile.noConfusion hlog

theorem beside_commonWith (hchk : ∀ u, Beside (chk u)) (ok : Bool)
    {what : Option EVSFLogEntryType} (hplain : vsfLogTypeIsTransfer what = false) (text : Bytes) :
    Beside (vsfLogCommonWith cfg env chk ok what text) := by
  apply Quiet.bind Quiet.get
  intro s
  apply Quiet.bind
  · unfold Prog.whenever
    rw [if_neg (by rw [hplain]; simp)]
    exact Quiet.pure ()
  · intro _
    apply Quiet.bind Quiet.get
    intro s
    apply Quiet.bind (Quiet.whenever (beside_vsftpdLog hchk ok what text))
    intro _
    apply Quiet.whenever
    apply Quiet.bind (beside_formatLine ok what text)
    intro _
    exact Quiet.pure _

theorem beside_handleSigurg (u : Urgent) : Beside (handleSigurg cfg env u) := by
  have hline : ∀ l : LogLine,
      Beside (vsfLogCommonWith cfg env (fun _ => pure ()) true l.what l.text) :=
    fun l => beside_commonWith (fun _ => Quiet.pure ()) true l.plain l.text
  apply Quiet.bind Quiet.get
  intro s
  apply Quiet.whenever
  apply Quiet.bind (Quiet.forEach hline _)
  intro _
  exact Quiet.whenever (Quiet.halt trivial)

theorem beside_line (l : LogLine) : Beside (vsfLogLine cfg env l) :=
  beside_commonWith beside_handleSigurg true l.plain l.text

/-! ## Records of transfers -/

/-- The run keeps to the identity and the address of the session `start`, and writes the
texts of such sessions to the transfer log. -/
def keeps (start : LogSession) : Requirement LogRecord Halt where
  event r := r.log = .xferlog →
    r.text = xferlogText r.sess r.now r.succeeded ∧ identity r.sess = identity start ∧
      r.sess.remoteIpStr = start.remoteIpStr
  halt _ := True

structure Keeps (start : LogSession) (s : LogState W) : Prop where
  identity : identity s.sess = identity start
  remoteIp : s.sess.remoteIpStr = start.remoteIpStr

theorem Beside.wp {α : Type} {m : M W α} (h : Beside m) {Q : α → LogState W → Prop}
    (hq : ∀ a s', s'.sess = s.sess → Q a s') : wp (keeps start) m Q s :=
  Quiet.wp h (fun _ hlog heq => absurd heq hlog) (fun _ _ => trivial) hq

/-- Without a data connection a pending signal changes nothing. -/
theorem wp_handleSigurg_closed {u : Urgent} {Q : Unit → LogState W → Prop}
    (hclosed : s.sess.dataFd = -1) : wp R (handleSigurg cfg env u) Q s ↔ Q () s := by
  unfold handleSigurg
  rw [wp_bind, wp_get, wp_whenever]
  constructor
  · exact fun h => h.2 (not_not.mpr hclosed)
  · exact fun h => ⟨fun hopen => absurd hclosed hopen, fun _ => h⟩

theorem wp_toFile_closed (hclosed : s.sess.dataFd = -1) {log : LogFile} {sess : LogSession}
    {now : Readings} {ok : Bool} (hhalt : ∀ h, R.halt h)
    (hevent : R.event ⟨log, sess, now, ok, logText s⟩) :
    wp R (vsfLogDoLogToFile cfg (handleSigurg cfg env) log sess now ok)
      (fun _ s' => s'.sess = s.sess) s := by
  have hwrite : wp R
      (Prog.whenever (cfg.noLogLock = true ∨ now.locked = true) do
        writeRecord log sess now ok
        handleSigurg cfg env now.afterWriting
        Prog.whenever (cfg.noLogLock = false ∧ now.unlocked = false) (Prog.halt (.die "fcntl")))
      (fun _ s' => s'.sess = s.sess) s := by
    rw [wp_whenever]
    refine ⟨fun _ => ?_, fun _ => rfl⟩
    rw [wp_bind, writeRecord, wp_emit]
    refine ⟨hevent, ?_⟩
    rw [wp_bind, wp_handleSigurg_closed (by exact hclosed), wp_whenever]
    exact ⟨fun _ => wp_halt.mpr (hhalt _), fun _ => rfl⟩
  unfold vsfLogDoLogToFile
  rw [wp_bind, wp_whenever, wp_handleSigurg_closed hclosed]
  exact ⟨fun _ => hwrite, fun _ => hwrite⟩

theorem wp_logXferlog (hkeeps : Keeps start s) (hclosed : s.sess.dataFd = -1) (ok : Bool) :
    wp (keeps start) (logXferlog cfg env (handleSigurg cfg env) ok)
      (fun _ s' => s'.sess = s.sess) s := by
  unfold logXferlog
  rw [wp_bind]
  apply beside_readings.wp
  intro now s₁ h₁
  rw [wp_bind, wp_get, wp_bind, setLogStr, wp_modify]
  have hevent : (keeps start).event ⟨.xferlog, s₁.sess, now, ok,
      logText { s₁ with sLogStr := vsfLogDoLogWuftpdFormat s₁.sess now ok }⟩ := by
    intro _
    refine ⟨rfl, ?_, ?_⟩
    · show identity s₁.sess = identity start
      rw [h₁, hkeeps.identity]
    · show s₁.sess.remoteIpStr = start.remoteIpStr
      rw [h₁, hkeeps.remoteIp]
  apply (wp_toFile_closed (by show s₁.sess.dataFd = -1; rw [h₁, hclosed]) (fun _ => trivial)
    hevent).mono
  intro _ s₂ h₂
  rw [h₂, h₁]

theorem wp_common (hkeeps : Keeps start s) (hclosed : s.sess.dataFd = -1) (ok : Bool)
    (what : Option EVSFLogEntryType) (text : Bytes) :
    wp (keeps start) (vsfLogCommon cfg env ok what text) (fun _ s' => s'.sess = s.sess) s := by
  unfold vsfLogCommon vsfLogCommonWith
  rw [wp_bind, wp_get, wp_bind, wp_whenever]
  have hrest : ∀ s₁ : LogState W, s₁.sess = s.sess → wp (keeps start)
      (do
        let s ← Prog.get
        Prog.whenever (s.sess.vsftpdLogFd ≠ -1)
          (logVsftpdLog cfg env (handleSigurg cfg env) ok what text)
        Prog.whenever (cfg.syslogEnable = true) (formatLine cfg env ok what text *> pure ()))
      (fun _ s' => s'.sess = s.sess) s₁ := by
    intro s₁ h₁
    rw [wp_bind, wp_get, wp_bind]
    apply Beside.wp (Quiet.whenever (beside_vsftpdLog beside_handleSigurg ok what text))
    intro _ s₂ h₂
    apply Beside.wp
    · apply Quiet.whenever
      apply Quiet.bind (beside_formatLine ok what text)
      intro _
      exact Quiet.pure _
    · intro _ s₃ h₃
      rw [h₃, h₂, h₁]
  constructor
  · intro _
    exact (wp_logXferlog hkeeps hclosed ok).mono fun _ s₁ h₁ => hrest s₁ h₁
  · intro _
    exact hrest s rfl

/-! ## Sessions -/

/-- Between two commands: there is no data connection. -/
structure Idle (start : LogSession) (s : LogState W) : Prop extends Keeps start s where
  closed : s.sess.dataFd = -1

theorem Idle.of_sess {s' : LogState W} (h : Idle start s) (heq : s'.sess = s.sess) :
    Idle start s' := by
  constructor
  · constructor
    · rw [heq, h.identity]
    · rw [heq, h.remoteIp]
  · rw [heq, h.closed]

/-- The data connection and the identity are not what the function sets. -/
def SetsOther (f : LogSession → LogSession) : Prop :=
  ∀ sess, identity (f sess) = identity sess ∧ (f sess).remoteIpStr = sess.remoteIpStr ∧
    (f sess).dataFd = sess.dataFd

theorem triple_updateSess {f : LogSession → LogSession} (hf : SetsOther f) :
    Triple (keeps start) (Idle start) (updateSess f : M W Unit) fun _ s => Idle start s := by
  intro s h
  obtain ⟨hidentity, hip, hfd⟩ := hf s.sess
  rw [updateSess, wp_modify]
  constructor
  · constructor
    · exact hidentity.trans h.identity
    · exact hip.trans h.remoteIp
  · exact hfd.trans h.closed

theorem triple_beside {α : Type} {m : M W α} (hm : Beside m) :
    Triple (keeps start) (Idle start) m fun _ s => Idle start s :=
  fun _ h => hm.wp fun _ _ heq => h.of_sess heq

theorem triple_doLog (ok : Bool) :
    Triple (keeps start) (Idle start) (vsfLogDoLog cfg env ok) fun _ s => Idle start s := by
  intro s h
  unfold vsfLogDoLog
  rw [wp_bind, wp_get, wp_bind]
  apply (wp_common h.toKeeps h.closed ok s.sess.logType s.sess.logStr).mono
  intro _ s₁ h₁
  exact triple_updateSess (by exact fun _ => ⟨rfl, rfl, rfl⟩) s₁ (h.of_sess h₁)

theorem triple_startEntry (what : EVSFLogEntryType) :
    Triple (keeps start) (Idle start) (vsfLogStartEntry env what) fun _ s => Idle start s := by
  intro s h
  unfold vsfLogStartEntry
  rw [wp_bind, wp_get, wp_ite]
  refine ⟨fun _ => wp_halt.mpr trivial, fun _ => ?_⟩
  rw [wp_bind]
  apply (triple_updateSess (by exact fun _ => ⟨rfl, rfl, rfl⟩) s h).mono
  intro _ s₁ h₁
  rw [wp_whenever]
  refine ⟨fun _ => ?_, fun _ => h₁⟩
  rw [wp_bind]
  apply (triple_beside beside_readings s₁ h₁).mono
  intro now s₂ h₂
  exact triple_updateSess (by exact fun _ => ⟨rfl, rfl, rfl⟩) s₂ h₂

theorem triple_initDataSockParams (fd : Int) :
    Triple (keeps start) (Idle start) (initDataSockParams fd : M W Unit)
      fun _ s => Keeps start s := by
  intro s h
  unfold initDataSockParams updateSess
  rw [wp_bind, wp_get, wp_ite, wp_modify]
  exact ⟨fun _ => wp_halt.mpr trivial, fun _ => ⟨h.identity, h.remoteIp⟩⟩

theorem triple_disposeTransferFd :
    Triple (keeps start) (Keeps start) (disposeTransferFd : M W Unit) fun _ s => Idle start s := by
  intro s h
  unfold disposeTransferFd updateSess
  rw [wp_bind, wp_get, wp_ite, wp_modify]
  exact ⟨fun _ => wp_halt.mpr trivial, fun _ => ⟨⟨h.identity, h.remoteIp⟩, rfl⟩⟩

/-- Nothing goes to the transfer log while there is a data connection. -/
theorem triple_useConnection (c : Connection) :
    Triple (keeps start) (Idle start) (useConnection cfg env c) fun _ s => Idle start s := by
  have hline : ∀ l, Triple (keeps start) (Keeps start) (vsfLogLine cfg env l)
      fun _ s => Keeps start s := by
    intro l s h
    apply (beside_line l).wp
    intro _ s' heq
    constructor
    · rw [heq, h.identity]
    · rw [heq, h.remoteIp]
  apply (triple_initDataSockParams c.fd).bind
  intro _
  apply (Triple.forEach hline c.lines).bind
  intro _
  exact triple_disposeTransferFd

theorem triple_exchange (x : Exchange) :
    Triple (keeps start) (Idle start) (runExchange cfg env x) fun _ s => Idle start s := by
  cases x with
  | line l => exact triple_beside (beside_line l)
  | data c => exact triple_useConnection c

theorem triple_runEntry (e : Entry) :
    Triple (keeps start) (Idle start) (runEntry cfg env e) fun _ s => Idle start s := by
  apply (triple_startEntry e.what).bind
  intro _
  apply (triple_updateSess (by exact fun _ => ⟨rfl, rfl, rfl⟩)).bind
  intro _
  apply (Triple.forEach triple_exchange _).bind
  intro _
  apply (triple_updateSess (by exact fun _ => ⟨rfl, rfl, rfl⟩)).bind
  intro _
  cases e.ending with
  | logged => exact triple_doLog true
  | cleared => exact triple_updateSess (by exact fun _ => ⟨rfl, rfl, rfl⟩)
  | pending => exact fun s h => wp_pure.mpr h

theorem triple_step (step : LogStep) :
    Triple (keeps start) (Idle start) (logStep cfg env step) fun _ s => Idle start s := by
  cases step with
  | exchange x => exact triple_exchange x
  | ascii on => exact triple_updateSess (by exact fun _ => ⟨rfl, rfl, rfl⟩)
  | entry e =>
      apply (triple_runEntry e).bind
      intro _ s h
      rw [wp_bind, wp_get, wp_whenever]
      exact ⟨fun _ => triple_doLog false s h, fun _ => h⟩

theorem triple_run (steps : List LogStep) :
    Triple (keeps start) (Idle start) (logRun cfg env steps) fun _ s => Idle start s :=
  Triple.forEach triple_step steps

/-- Every record is one line of printable characters.  After a login, the fields of every
record of the transfer log stand where they always do. -/
theorem logRun_integrity (cfg : Tunables) (env : Env W) (steps : List LogStep)
    (s : LogState W) :
    (∀ r ∈ (logRun cfg env steps s).1, IsRecord r.text) ∧
      (LoggedIn s.sess → s.sess.dataFd = -1 →
        ∀ r ∈ (logRun cfg env steps s).1, r.log = .xferlog →
          r.text.count 32 =
              r.now.currentDate.count 32 + s.sess.remoteIpStr.count 32 + 13 ∧
            r.text.dropLast.splitOn 32 = writtenFields r.sess r.now r.succeeded) := by
  refine ⟨fun r hr => isRecord_of_mem_run hr, ?_⟩
  intro hlogin hclosed r hr hlog
  have hrun : wp (keeps s.sess) (logRun cfg env steps) (fun _ s' => Idle s.sess s') s :=
    triple_run steps s ⟨⟨rfl, rfl⟩, hclosed⟩
  obtain ⟨htext, hidentity, hip⟩ := hrun.1 r hr hlog
  have huser : 32 ∉ xferlogUser r.sess := (hlogin.of_identity hidentity).space_not_mem
  rw [htext, ← hip]
  exact ⟨count_xferlogText huser, splitOn_xferlogText huser⟩

end

/-- A password and a file name with spaces and newlines in them. -/
def forgingLogin : Login where
  checkAuth _ _ _ := false
  before :=
    { xferlogFd := 3, vsftpdLogFd := 4, remoteIpStr := bytes "1.2.3.4", userStr := bytes "ftp" }
  pass := bytes "me\nyou o"

def forgingSession : LogSession :=
  { forgingLogin.before with isAnonymous := true, anonPassStr := bytes "me?you_o" }

def forgingSteps : List LogStep :=
  [.entry
    { what := .upload
      text := bytes "/a b\nc"
      exchanges :=
        [.data ⟨5, [⟨some .ftpOutput, bytes "150 Ok.\n", rfl⟩]⟩,
          .line ⟨some .ftpOutput, bytes "226 Done.\n", rfl⟩]
      transferred := 7
      ending := .logged }]

def fixedEnv : Env Unit where
  read _ :=
    ({ currentDate := bytes "Thu Jan  1"
       whileLocking := { lines := [⟨some .ftpInput, bytes "ABOR\n", rfl⟩] } }, ())
  kbyteRate _ _ _ := bytes "0.07"

def forgingRun : List LogRecord :=
  (logRun {} fixedEnv forgingSteps { sess := forgingSession, world := () }).1

theorem logRun_integrity_forging :
    (∀ r ∈ forgingRun, IsRecord r.text) ∧
      (∀ r ∈ forgingRun, r.log = .xferlog → r.text.count 32 = 3 + 0 + 13) ∧
      (forgingRun.filter fun r => r.log = .xferlog).map LogRecord.text =
        [bytes "Thu Jan  1 1 1.2.3.4 7 /a_b?c b _ i a me?you_o ftp 0 * c\n"] := by
  have hlogin : LoggedIn forgingSession :=
    ⟨forgingLogin, { forgingSession with bannedEmailStr := [] }, rfl, .inl rfl, rfl⟩
  have h := logRun_integrity {} fixedEnv forgingSteps { sess := forgingSession, world := () }
  refine ⟨h.1, fun r hr hlog => ?_, by decide +kernel⟩
  have hdate : ∀ r ∈ forgingRun, r.now.currentDate.count 32 = 3 := by decide +kernel
  rw [(h.2 hlogin rfl r hr hlog).1, hdate r hr]
  rfl

end Vsftpd.Logging
