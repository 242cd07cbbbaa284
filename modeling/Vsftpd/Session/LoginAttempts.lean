import Vsftpd.Lib.Budget
import Vsftpd.Session.LoginPolicy

/-!
# Guessing passwords over one connection

`check_login_fails` ends the connection after `max_login_fails` failures.  The calls that try
a password are paid for from the failures that are still allowed.
-/

namespace Vsftpd.Session

open Vsftpd.Lib

variable {W α : Type} {cfg : PreloginTunables} {k : Kernel W} {s : State W} {n : Nat}

/-- A password is tried. -/
def Event.isLogin (e : Event W) : Bool := e.loginUser.isSome

/-- `check_limits` refuses the connection. -/
def TurnedAway (cfg : PreloginTunables) (sess : VsfSession) : Prop :=
  (cfg.maxClients > 0 ∧ sess.numClients > cfg.maxClients) ∨
    (cfg.maxPerIp > 0 ∧ sess.numThisIp > cfg.maxPerIp) ∨ sess.tcpWrapperOk = false

instance (cfg : PreloginTunables) (sess : VsfSession) : Decidable (TurnedAway cfg sess) :=
  inferInstanceAs (Decidable (_ ∨ _ ∨ _))

/-- The failures after which the connection ends: the first one at the latest ends it where
none are allowed. -/
def allowedFails (cfg : PreloginTunables) : Nat := max 1 cfg.maxLoginFails

/-- How many passwords can be tried. -/
def attempts (cfg : PreloginTunables) (sess : VsfSession) : Nat :=
  if TurnedAway cfg sess then 0 else allowedFails cfg

/-- There is a failure left, and what is left of the budget is enough for all that are. -/
structure Credit (cfg : PreloginTunables) (n : Nat) (s : State W) : Prop where
  failsLeft : s.session.loginFails < allowedFails cfg
  covers : allowedFails cfg ≤ n + s.session.loginFails

theorem Credit.of_view {s' : State W} (h : Credit cfg n s)
    (hview : s'.session.loginFails = s.session.loginFails) : Credit cfg n s' := by
  constructor
  · rw [hview]
    exact h.failsLeft
  · rw [hview]
    exact h.covers

theorem Credit.pos (h : Credit cfg n s) : 0 < n := by
  have hopen := h.failsLeft
  have hcovers := h.covers
  omega

/-! ## Programs that try no password -/

/-- No password is tried and no failure counted. -/
abbrev Harmless (m : M W α) : Prop :=
  Free Event.isLogin (fun s : State W => s.session.loginFails) m

theorem isLogin_of_calm {e : Event W} (h : CalmCall e.call) : e.isLogin = false := by
  unfold Event.isLogin
  rw [loginUser_of_calm h]
  rfl

theorem Calm.harmless {m : M W α} (h : Calm cfg.toTunables k (fun _ => ()) m) : Harmless m := by
  rintro v s rfl
  have hcalm := h (s.calmView fun _ => ()) s rfl
  refine (hcalm.mono fun _ s' hs' => ?_).weaken (fun e he => isLogin_of_calm he.2)
    fun _ _ => trivial
  have hsteady : s'.session.steady = s.session.steady := congrArg (fun v => v.1.steady) hs'
  have hfails : s'.session.steady.loginFails = s.session.steady.loginFails :=
    congrArg VsfSession.loginFails hsteady
  exact hfails

theorem Harmless.credit {m : M W α} (h : Harmless m) (hs : Credit cfg n s) :
    bwp Event.isLogin m (fun _ => Credit cfg) n s :=
  h.bwp fun _ _ hview => hs.of_view hview

theorem harmless_getSess (p : Proc) : Harmless (getSess p : M W VsfSession) :=
  Quiet.get.bind fun _ => Quiet.pure _

theorem harmless_sys {c : Syscall} (h : CalmCall c) : Harmless (sys k c) :=
  Quiet.emit (fun _ => isLogin_of_calm h) fun _ => rfl

theorem harmless_halt (h : Halt) : Harmless (Prog.halt h : M W α) := Quiet.halt trivial

theorem harmless_write (cfg : PreloginTunables) (k : Kernel W) (status : FtpCode)
    (text : String) : Harmless (vsfCmdioWrite cfg.toTunables k status text) :=
  (calm_vsfCmdioWrite (keepsFs_unit k) status text).harmless

theorem harmless_writeExit (cfg : PreloginTunables) (k : Kernel W) (status : FtpCode)
    (text : String) (exitVal : Int) :
    Harmless (vsfCmdioWriteExit cfg.toTunables k status text exitVal : M W α) :=
  (calm_vsfCmdioWriteExit (keepsFs_unit k) status text exitVal).harmless

theorem harmless_handleFeat (cfg : PreloginTunables) (k : Kernel W) :
    Harmless (handleFeat cfg.toTunables k) := by
  apply (calm_vsfCmdioWriteHyphen (keepsFs_unit k) _ _).harmless.bind
  intro _
  apply (calm_writeRawLines (keepsFs_unit k) _).harmless.bind
  exact fun _ => harmless_write cfg k _ _

theorem harmless_handleOpts (cfg : PreloginTunables) (k : Kernel W) :
    Harmless (handleOpts cfg.toTunables k) := by
  apply (harmless_getSess _).bind
  intro sess
  refine Quiet.bind (Quiet.modify fun _ => rfl) fun _ => ?_
  exact Quiet.ite (harmless_write cfg k _ _) (harmless_write cfg k _ _)

theorem harmless_handlePbsz (cfg : PreloginTunables) (k : Kernel W) :
    Harmless (handlePbsz cfg.toTunables k) := by
  apply (harmless_getSess _).bind
  exact fun _ => Quiet.ite (harmless_write cfg k _ _) (harmless_write cfg k _ _)

theorem harmless_handleProt (cfg : PreloginTunables) (k : Kernel W) :
    Harmless (handleProt cfg.toTunables k) := by
  have hset (b : Bool) (text : String) : Harmless (do
      updateSession fun sess => { sess with dataUseSsl := b }
      vsfCmdioWrite cfg.toTunables k 200 text) :=
    Quiet.bind (Quiet.modify fun _ => rfl) fun _ => harmless_write cfg k _ _
  apply (harmless_getSess _).bind
  intro sess
  refine Quiet.bind (Quiet.modify fun _ => rfl) fun _ => ?_
  apply Quiet.ite (harmless_write cfg k _ _)
  apply Quiet.ite (hset false _)
  apply Quiet.ite (hset true _)
  exact Quiet.ite (harmless_write cfg k _ _) (harmless_write cfg k _ _)

theorem harmless_sslControlHandshake (cfg : PreloginTunables) (k : Kernel W) :
    Harmless (sslControlHandshake cfg k) := by
  have hnew : Harmless (sys k (.sslNew vsftpCommandFd)) :=
    Quiet.emit (fun _ => rfl) fun _ => rfl
  apply hnew.bind
  intro created
  apply Quiet.ite
  · apply (harmless_sys (c := .sslHandshake vsftpCommandFd) trivial).bind
    intro accepted
    exact Quiet.ite (Quiet.modify fun _ => rfl) (harmless_halt _)
  · apply Quiet.get.bind
    intro s
    apply (calm_vsfCmdioWriteStr (keepsFs_unit k) _ _).harmless.bind
    exact fun _ => harmless_halt _

theorem harmless_handleAuth (cfg : PreloginTunables) (k : Kernel W) :
    Harmless (handleAuth cfg k) := by
  apply (harmless_getSess _).bind
  intro sess
  refine Quiet.bind (Quiet.modify fun _ => rfl) fun _ => ?_
  apply Quiet.ite
  · apply (harmless_write cfg k _ _).bind
    intro _
    apply (harmless_sslControlHandshake cfg k).bind
    exact fun _ => Quiet.whenever (Quiet.modify fun _ => rfl)
  · exact harmless_write cfg k _ _

theorem harmless_vsfLogLine (cfg : PreloginTunables) (k : Kernel W) (what : LogEntryType)
    (text : Bytes) : Harmless (vsfLogLine cfg k what text) := by
  apply (harmless_sys (c := .log true (some what) text) trivial).bind
  exact fun _ => (calm_checkPendingActions (keepsFs_unit k)).harmless

theorem harmless_emitGreeting (cfg : PreloginTunables) (k : Kernel W) :
    Harmless (emitGreeting cfg k) := by
  apply (harmless_getSess _).bind
  intro sess
  apply Quiet.ite
  · apply (calm_vsfBannerWrite (keepsFs_unit k) _ _).harmless.bind
    intro _
    refine Quiet.bind (Quiet.modify fun _ => rfl) fun _ => ?_
    exact harmless_write cfg k _ _
  · cases cfg.ftpdBanner with
    | none => exact harmless_write cfg k _ _
    | some banner => exact (calm_vsfCmdioWriteStr (keepsFs_unit k) _ _).harmless

theorem harmless_getCmdAndArg (cfg : PreloginTunables) (k : Kernel W) :
    Harmless (vsfCmdioGetCmdAndArg cfg.toTunables k) := by
  have hchk : Calm cfg.toTunables k (fun _ => ()) (checkPendingActions cfg.toTunables k) :=
    calm_checkPendingActions (keepsFs_unit k)
  apply (calm_getCmdAndArgWith (keepsFs_unit k) hchk true).harmless.bind
  exact fun _ => Quiet.modify fun _ => rfl

/-! ## Failures -/

theorem bwp_getSess {p : Proc} {Q : VsfSession → Nat → State W → Prop} (h : Q (s.sess p) n s) :
    bwp Event.isLogin (getSess p) Q n s :=
  bwp_bind (bwp_get (bwp_pure h))

/-- A failure that does not end the connection leaves another one. -/
theorem checkLoginFails_credit (hcovers : allowedFails cfg ≤ n + (s.session.loginFails + 1)) :
    bwp Event.isLogin (checkLoginFails cfg k) (fun _ => Credit cfg) n s := by
  unfold checkLoginFails
  apply bwp_bind
  apply bwp_modify
  apply bwp_bind
  apply bwp_getSess
  apply bwp_ite
  · intro _
    apply bwp_bind
    exact (harmless_sys (c := .shutdown vsftpCommandFd) trivial).bwp fun _ _ _ => bwp_halt
  · intro hmore
    apply bwp_pure
    have hopen : s.session.loginFails + 1 < cfg.maxLoginFails := Nat.lt_of_not_le hmore
    constructor
    · exact Nat.lt_of_lt_of_le hopen (Nat.le_max_right 1 cfg.maxLoginFails)
    · exact hcovers

/-- What follows a name or a password that is refused. -/
theorem failed_credit (text : String)
    (hcovers : allowedFails cfg ≤ n + (s.session.loginFails + 1)) :
    bwp Event.isLogin (do
        vsfCmdioWrite cfg.toTunables k 530 text
        checkLoginFails cfg k
        emptyUser) (fun _ => Credit cfg) n s := by
  have hempty : Harmless (emptyUser : M W Unit) := Quiet.modify fun _ => rfl
  apply bwp_bind
  refine (harmless_write cfg k 530 text).bwp fun _ s₁ h₁ => ?_
  have hcovers₁ : allowedFails cfg ≤ n + (s₁.session.loginFails + 1) := by
    rw [h₁]
    exact hcovers
  apply bwp_bind
  exact (checkLoginFails_credit hcovers₁).mono fun _ _ _ hcredit => hempty.credit hcredit

/-- A password is tried at the price of one failure. -/
theorem handlePassCommand_credit (h : Credit cfg n s) :
    bwp Event.isLogin (handlePassCommand cfg k) (fun _ => Credit cfg) n s := by
  unfold handlePassCommand
  apply bwp_bind
  apply bwp_getSess
  apply bwp_ite
  · exact fun _ => (harmless_write cfg k _ _).credit h
  · intro _
    apply bwp_bind
    unfold processLogin
    apply bwp_bind
    apply bwp_getSess
    apply bwp_bind
    apply bwp_emit h.pos _ rfl
    have hfailed : ∀ w, bwp Event.isLogin (do
        vsfCmdioWrite cfg.toTunables k 530 "Login incorrect."
        checkLoginFails cfg k
        emptyUser) (fun _ => Credit cfg) (n - 1) { s with world := w } := by
      intro w
      have hcovers : allowedFails cfg ≤ n - 1 + (s.session.loginFails + 1) := by
        have hpos := h.pos
        have hn := h.covers
        omega
      exact failed_credit _ hcovers
    split
    · exact bwp_halt
    · exact bwp_pure (hfailed _)
    · exact bwp_ite (fun _ => bwp_halt) fun _ => bwp_halt

theorem handleUserCommand_credit (h : Credit cfg n s) :
    bwp Event.isLogin (handleUserCommand cfg k) (fun _ => Credit cfg) n s := by
  have hrefused (text : String) : Harmless (do
      vsfCmdioWrite cfg.toTunables k 530 text
      emptyUser) :=
    (harmless_write cfg k 530 text).bind fun _ => Quiet.modify fun _ => rfl
  have hdelay : Harmless (checkLoginDelay cfg k) :=
    Quiet.whenever (harmless_sys (c := .sleep) trivial)
  unfold handleUserCommand
  apply bwp_bind
  apply bwp_modify
  apply bwp_bind
  apply bwp_getSess
  generalize hs₁ : s.setSess .session _ = s₁
  have h₁ : Credit cfg n s₁ := by
    rw [← hs₁]
    exact h.of_view rfl
  dsimp only
  apply bwp_ite
  · exact fun _ => (hrefused _).credit h₁
  intro _
  apply bwp_ite
  · exact fun _ => (hrefused _).credit h₁
  intro _
  apply bwp_ite
  · exact fun _ => (harmless_writeExit cfg k _ _ _).credit h₁
  intro _
  apply bwp_ite
  · exact fun _ => (harmless_writeExit cfg k _ _ _).credit h₁
  intro _
  apply bwp_ite
  · intro _
    apply bwp_bind
    refine hdelay.bwp fun _ s₂ h₂ => failed_credit _ ?_
    rw [h₂]
    exact Nat.le_trans h₁.covers (Nat.add_le_add_left (Nat.le_succ _) n)
  intro _
  apply bwp_ite
  · intro _
    apply bwp_bind
    apply bwp_modify
    exact handlePassCommand_credit (h₁.of_view rfl)
  · exact fun _ => (harmless_write cfg k _ _).credit h₁

/-! ## Runs -/

theorem handleFtpCommand_credit (h : Credit cfg n s) :
    bwp Event.isLogin (handleFtpCommand cfg k) (fun _ => Credit cfg) n s := by
  unfold handleFtpCommand
  apply bwp_bind
  apply bwp_getSess
  dsimp only
  apply bwp_ite
  · exact fun _ => handleUserCommand_credit h
  intro _
  apply bwp_ite
  · exact fun _ => handlePassCommand_credit h
  intro _
  refine Harmless.credit ?_ h
  apply Quiet.ite (harmless_writeExit cfg k _ _ _)
  apply Quiet.ite (harmless_handleFeat cfg k)
  apply Quiet.ite (harmless_handleOpts cfg k)
  apply Quiet.ite (harmless_handleAuth cfg k)
  apply Quiet.ite (harmless_handlePbsz cfg k)
  apply Quiet.ite (harmless_handleProt cfg k)
  exact Quiet.ite (Quiet.pure ()) (harmless_write cfg k _ _)

theorem preloginTurn_credit (h : Credit cfg n s) :
    bwp Event.isLogin (preloginTurn cfg k) (fun _ => Credit cfg) n s := by
  unfold preloginTurn
  apply bwp_bind
  refine (harmless_getCmdAndArg cfg k).bwp fun _ s₁ h₁ => ?_
  have hcredit : Credit cfg n s₁ := h.of_view h₁
  unfold servePrelogin
  apply bwp_ite
  · exact fun _ => handleFtpCommand_credit hcredit
  intro _
  apply bwp_ite
  · intro _
    apply bwp_bind
    have hverb : bwp Event.isLogin (handleVerb cfg k) (fun _ => Credit cfg) n s₁ := by
      unfold handleVerb
      apply bwp_bind
      apply bwp_getSess
      apply bwp_ite
      · intro _
        apply bwp_bind
        apply bwp_modify
        exact handlePassCommand_credit (hcredit.of_view rfl)
      · exact fun _ => (harmless_write cfg k _ _).credit hcredit
    exact hverb.mono fun _ _ _ _ => bwp_halt
  · exact fun _ => bwp_pure hcredit

/-- The process ends. -/
theorem vsfCmdioWriteExit_bwp {status : FtpCode} {text : String} {exitVal : Int}
    {Q : α → Nat → State W → Prop} :
    bwp Event.isLogin (vsfCmdioWriteExit cfg.toTunables k status text exitVal) Q n s := by
  have hk := keepsFs_unit k
  have hchk : Calm cfg.toTunables k (fun _ => ()) (checkPendingActions cfg.toTunables k) :=
    calm_checkPendingActions hk
  have hactivate : Calm cfg.toTunables k (fun _ => ())
      (vsfSysutilActivateNoblock k vsftpCommandFd) := calm_activateNoblock hk vsftpCommandFd
  have hshutdown : Harmless (sys k (.shutdown vsftpCommandFd)) := harmless_sys trivial
  unfold vsfCmdioWriteExit ftpWriteExit
  apply bwp_bind
  refine hactivate.harmless.bwp fun _ _ _ => ?_
  apply bwp_bind
  refine hshutdown.bwp fun _ _ _ => ?_
  apply bwp_bind
  refine (calm_ftpWriteStrCommon hk hchk status 32 (bytes text)).harmless.bwp fun _ _ _ => ?_
  apply bwp_bind
  exact hshutdown.bwp fun _ _ _ => bwp_halt

theorem refuseConnection_bwp {reason : String} {status : FtpCode} {text : String}
    {Q : Unit → Nat → State W → Prop} :
    bwp Event.isLogin (refuseConnection cfg k reason status text) Q n s :=
  bwp_bind ((harmless_vsfLogLine cfg k _ _).bwp fun _ _ _ => vsfCmdioWriteExit_bwp)

/-- A connection that is turned away comes to its end before a command is read. -/
theorem checkLimits_credit (hfails : s.session.loginFails = 0) :
    bwp Event.isLogin (checkLimits cfg k) (fun _ => Credit cfg) (attempts cfg s.session) s := by
  unfold checkLimits
  apply bwp_bind
  apply bwp_getSess
  apply bwp_ite
  · exact fun _ => refuseConnection_bwp
  intro hclients
  apply bwp_ite
  · exact fun _ => refuseConnection_bwp
  intro hperIp
  apply bwp_ite
  · exact fun _ => refuseConnection_bwp
  intro hwrapper
  have hin : ¬ TurnedAway cfg s.session := by
    rintro (h | h | h)
    · exact hclients h
    · exact hperIp h
    · exact hwrapper (by rw [State.sess_session, h]; rfl)
  apply (harmless_vsfLogLine cfg k _ _).credit
  unfold attempts
  rw [if_neg hin]
  constructor
  · rw [hfails]
    exact Nat.lt_of_lt_of_le Nat.zero_lt_one (Nat.le_max_left 1 cfg.maxLoginFails)
  · exact Nat.le_add_right _ _

theorem startConnection_credit (hfails : s.session.loginFails = 0) :
    bwp Event.isLogin (startConnection cfg k) (fun _ => Credit cfg) (attempts cfg s.session) s := by
  have hrest : Harmless (do
      Prog.whenever (cfg.sslEnable = true ∧ cfg.implicitSsl = true) (sslControlHandshake cfg k)
      Prog.whenever (cfg.ftpEnable = true) (emitGreeting cfg k)) :=
    (Quiet.whenever (harmless_sslControlHandshake cfg k)).bind fun _ =>
      Quiet.whenever (harmless_emitGreeting cfg k)
  have hlimits (s' : State W) (hsame : s'.session = s.session) :
      bwp Event.isLogin (do
        checkLimits cfg k
        Prog.whenever (cfg.sslEnable = true ∧ cfg.implicitSsl = true) (sslControlHandshake cfg k)
        Prog.whenever (cfg.ftpEnable = true) (emitGreeting cfg k))
      (fun _ => Credit cfg) (attempts cfg s.session) s' := by
    rw [← hsame] at hfails ⊢
    apply bwp_bind
    exact (checkLimits_credit hfails).mono fun _ _ _ hcredit => hrest.credit hcredit
  unfold startConnection vsfCmdioSetAlarm
  apply bwp_bind
  apply bwp_ite
  · intro _
    apply bwp_modify
    exact hlimits _ rfl
  · intro _
    apply bwp_pure
    exact hlimits s rfl

theorem initConnection_credit (rounds : Nat) (hfails : s.session.loginFails = 0) :
    bwp Event.isLogin (initConnection cfg k rounds) (fun _ => Credit cfg)
      (attempts cfg s.session) s := by
  apply bwp_bind
  refine (startConnection_credit hfails).mono fun _ n s' hcredit => ?_
  exact bwp_iterate (fun _ _ => preloginTurn_credit) rounds hcredit

/-- Whatever a client sends, one connection tries at most `max_login_fails` passwords, none
where the limits refuse it, and a connection that goes on has counted a failure for every
password and has not reached the maximum. -/
theorem initConnection_attempts (cfg : PreloginTunables) (k : Kernel W) (sess : VsfSession)
    (world : W) (rounds : Nat) :
    let out := initConnection cfg k rounds (atConnection sess world)
    out.1.countP Event.isLogin ≤ attempts cfg sess ∧
      ∀ s, out.2 = (s, .ok ()) → ¬ TurnedAway cfg sess ∧
        out.1.countP Event.isLogin ≤ s.session.loginFails ∧
        s.session.loginFails < max 1 cfg.maxLoginFails := by
  intro out
  have hrun : bwp Event.isLogin (initConnection cfg k rounds) (fun _ => Credit cfg)
      (attempts cfg sess) (atConnection sess world) :=
    initConnection_credit rounds rfl
  refine ⟨hrun.1, fun s hs => ?_⟩
  obtain ⟨left, hspent, hcredit⟩ := hrun.spent hs
  have hcovers := hcredit.covers
  have hopen := hcredit.failsLeft
  have hin : ¬ TurnedAway cfg sess := by
    intro hturned
    unfold attempts at hspent
    rw [if_pos hturned] at hspent
    have hpos := hcredit.pos
    omega
  unfold attempts at hspent
  rw [if_neg hin] at hspent
  refine ⟨hin, ?_, hopen⟩
  show (initConnection cfg k rounds (atConnection sess world)).1.countP Event.isLogin ≤ _
  omega

end Vsftpd.Session
