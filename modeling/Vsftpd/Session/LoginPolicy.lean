import Vsftpd.MyStr.Lines
import Vsftpd.Session.Guarantees
import Vsftpd.Session.PreLogin

/-!
# What USER asks still holds at the login

The stored name and the encryption of the control connection are a pair that USER
checks and that PASS uses.  AUTH changes the second half of it on its own.
-/

namespace Vsftpd.Session

open Vsftpd.Lib

variable {W α : Type} {cfg : PreloginTunables} {k : Kernel W} {userlist : Bytes} {s : State W}

/-- The lines of a list are its pieces. -/
theorem linesFrom_eq {text : Bytes} {n pos : Nat} (hpos : pos ≤ text.length)
    (hn : text.length - pos < n) : linesFrom text n pos = MyStr.pieces (text.drop pos) := by
  induction n generalizing pos with
  | zero => exact absurd hn (Nat.not_lt_zero _)
  | succ n ih =>
      rw [linesFrom]
      rcases Nat.eq_or_lt_of_le hpos with hend | hmore
      · rw [strGetline, if_pos hend, hend, List.drop_length]
        rfl
      · obtain ⟨piece, next, hget, hstep, hinside, hpieces⟩ := MyStr.strGetline_pieces hmore
        rw [hget, hpieces]
        dsimp only
        rw [ih hinside (by omega)]

theorem strContainsLine_eq (text line : Bytes) :
    strContainsLine text line = decide (line ∈ MyStr.pieces text) := by
  unfold strContainsLine
  rw [linesFrom_eq (Nat.zero_le _) (by omega), List.drop_zero]

/-- The restrictions of USER, for a name and the encryption of the control connection. -/
structure Admitted (cfg : PreloginTunables) (userlist user : Bytes) (ssl : Bool) : Prop where
  localLogins : isAnonName user = false → cfg.localEnable = true
  anonSsl : isAnonName user = true → ssl = true →
    cfg.allowAnonSsl = true ∨ cfg.forceAnonLoginsSsl = true
  forceLocal : cfg.sslEnable = true → isAnonName user = false →
    cfg.forceLocalLoginsSsl = true → ssl = true
  forceAnon : cfg.sslEnable = true → isAnonName user = true →
    cfg.forceAnonLoginsSsl = true → ssl = true
  userlist : cfg.userlistEnable = true →
    strContainsLine userlist user = !cfg.userlistDeny

instance (cfg : PreloginTunables) (userlist user : Bytes) (ssl : Bool) :
    Decidable (Admitted cfg userlist user ssl) :=
  decidable_of_iff
    ((isAnonName user = false → cfg.localEnable = true) ∧
      (isAnonName user = true → ssl = true →
        cfg.allowAnonSsl = true ∨ cfg.forceAnonLoginsSsl = true) ∧
      (cfg.sslEnable = true → isAnonName user = false →
        cfg.forceLocalLoginsSsl = true → ssl = true) ∧
      (cfg.sslEnable = true → isAnonName user = true →
        cfg.forceAnonLoginsSsl = true → ssl = true) ∧
      (cfg.userlistEnable = true → strContainsLine userlist user = !cfg.userlistDeny))
    ⟨fun ⟨h1, h2, h3, h4, h5⟩ => ⟨h1, h2, h3, h4, h5⟩,
      fun ⟨h1, h2, h3, h4, h5⟩ => ⟨h1, h2, h3, h4, h5⟩⟩

/-- Whom a call logs in. -/
def Event.loginUser (e : Event W) : Option Bytes :=
  match e.call with
  | .login user _ _ _ => some user
  | _ => none

/-- A login is of a user that USER would let through now. -/
def LoginAdmitted (cfg : PreloginTunables) (userlist : Bytes) (e : Event W) : Prop :=
  ∀ user ∈ e.loginUser, Admitted cfg userlist user e.before.session.controlUseSsl

instance (cfg : PreloginTunables) (userlist : Bytes) (e : Event W) :
    Decidable (LoginAdmitted cfg userlist e) :=
  inferInstanceAs (Decidable (∀ user ∈ e.loginUser,
    Admitted cfg userlist user e.before.session.controlUseSsl))

/-- Logins are admitted, and the process may end in any way. -/
def loginRequirement (cfg : PreloginTunables) (userlist : Bytes) :
    Requirement (Event W) Halt :=
  ⟨LoginAdmitted cfg userlist, fun _ => True⟩

/-! ## The pair -/

/-- The session's data that USER checks. -/
def VsfSession.loginView (sess : VsfSession) : Bytes × Bool × Bytes :=
  (sess.userStr, sess.controlUseSsl, sess.userlistStr)

/-- A name that is stored has passed the checks of USER. -/
structure LoginInv (cfg : PreloginTunables) (userlist : Bytes) (sess : VsfSession) : Prop where
  list : sess.userlistStr = userlist
  user : sess.userStr ≠ [] → Admitted cfg userlist sess.userStr sess.controlUseSsl

theorem LoginInv.of_view {sess sess' : VsfSession} (h : LoginInv cfg userlist sess)
    (hview : sess'.loginView = sess.loginView) : LoginInv cfg userlist sess' := by
  have huser : sess'.userStr = sess.userStr := congrArg Prod.fst hview
  have hssl : sess'.controlUseSsl = sess.controlUseSsl :=
    congrArg (fun v => v.2.1) hview
  have hlist : sess'.userlistStr = sess.userlistStr := congrArg (fun v => v.2.2) hview
  constructor
  · rw [hlist]
    exact h.list
  · rw [huser, hssl]
    exact h.user

theorem LoginInv.of_empty {sess : VsfSession} (hlist : sess.userlistStr = userlist)
    (hempty : sess.userStr = []) : LoginInv cfg userlist sess :=
  ⟨hlist, fun hne => absurd hempty hne⟩

/-! ## Programs that leave the pair alone -/

/-- Nobody is logged in and the pair stays. -/
abbrev Bystander (m : M W α) : Prop :=
  Quiet (fun s : State W => s.session.loginView) (fun _ e => e.loginUser = none)
    (fun _ => True) m

theorem loginUser_of_calm {e : Event W} (h : CalmCall e.call) : e.loginUser = none := by
  unfold Event.loginUser
  split
  · rename_i heq
    rw [heq] at h
    exact absurd h not_false
  · rfl

theorem loginView_of_calmView {s' : State W} {φ : W → Unit}
    (h : s'.calmView φ = s.calmView φ) : s'.session.loginView = s.session.loginView := by
  have hsteady : s'.session.steady = s.session.steady := congrArg (fun v => v.1.steady) h
  have hview : s'.session.steady.loginView = s.session.steady.loginView :=
    congrArg VsfSession.loginView hsteady
  exact hview

theorem Calm.bystander {m : M W α} (h : Calm cfg.toTunables k (fun _ => ()) m) :
    Bystander m := by
  intro v s hs
  subst hs
  have hcalm := h (s.calmView fun _ => ()) s rfl
  refine (hcalm.mono fun _ s' hs' => loginView_of_calmView hs').weaken (fun e he => ?_)
    fun _ _ => trivial
  exact loginUser_of_calm he.2

theorem Bystander.wp {m : M W α} {Q : α → State W → Prop} (h : Bystander m)
    (hq : ∀ a s', s'.session.loginView = s.session.loginView → Q a s') :
    Lib.wp (loginRequirement cfg userlist) m Q s := by
  refine Quiet.wp h (fun e he => ?_) (fun _ _ => trivial) hq
  intro user huser
  rw [he] at huser
  exact absurd huser (by simp)

/-- From the invariant to the invariant. -/
theorem Bystander.loginInv {m : M W α} (h : Bystander m)
    (hs : LoginInv cfg userlist s.session) :
    Lib.wp (loginRequirement cfg userlist) m (fun _ s' => LoginInv cfg userlist s'.session) s :=
  h.wp fun _ _ hview => hs.of_view hview

theorem bystander_getSess (p : Proc) : Bystander (getSess p : M W VsfSession) :=
  Quiet.get.bind fun _ => Quiet.pure _

theorem bystander_write (cfg : PreloginTunables) (k : Kernel W) (status : FtpCode)
    (text : String) : Bystander (vsfCmdioWrite cfg.toTunables k status text) :=
  (calm_vsfCmdioWrite (keepsFs_unit k) status text).bystander

theorem bystander_writeExit (cfg : PreloginTunables) (k : Kernel W) (status : FtpCode)
    (text : String) (exitVal : Int) :
    Bystander (vsfCmdioWriteExit cfg.toTunables k status text exitVal : M W α) :=
  (calm_vsfCmdioWriteExit (keepsFs_unit k) status text exitVal).bystander

theorem bystander_sys {c : Syscall} (h : CalmCall c) : Bystander (sys k c) :=
  Quiet.emit (fun _ => loginUser_of_calm h) fun _ => rfl

theorem bystander_halt (h : Halt) : Bystander (Prog.halt h : M W α) := Quiet.halt trivial

theorem bystander_handleFeat (cfg : PreloginTunables) (k : Kernel W) :
    Bystander (handleFeat cfg.toTunables k) := by
  refine (calm_vsfCmdioWriteHyphen (keepsFs_unit k) _ _).bystander.bind fun _ => ?_
  exact (calm_writeRawLines (keepsFs_unit k) _).bystander.bind fun _ => bystander_write cfg k _ _

theorem bystander_handleOpts (cfg : PreloginTunables) (k : Kernel W) :
    Bystander (handleOpts cfg.toTunables k) := by
  refine (bystander_getSess _).bind fun sess => ?_
  refine Quiet.bind (Quiet.modify fun _ => rfl) fun _ => ?_
  exact Quiet.ite (bystander_write cfg k _ _) (bystander_write cfg k _ _)

theorem bystander_handlePbsz (cfg : PreloginTunables) (k : Kernel W) :
    Bystander (handlePbsz cfg.toTunables k) := by
  refine (bystander_getSess _).bind fun sess => ?_
  exact Quiet.ite (bystander_write cfg k _ _) (bystander_write cfg k _ _)

theorem bystander_handleProt (cfg : PreloginTunables) (k : Kernel W) :
    Bystander (handleProt cfg.toTunables k) := by
  have hset (b : Bool) (text : String) : Bystander (do
      updateSession fun sess => { sess with dataUseSsl := b }
      vsfCmdioWrite cfg.toTunables k 200 text) :=
    Quiet.bind (Quiet.modify fun _ => rfl) fun _ => bystander_write cfg k _ _
  refine (bystander_getSess _).bind fun sess => ?_
  refine Quiet.bind (Quiet.modify fun _ => rfl) fun _ => ?_
  apply Quiet.ite (bystander_write cfg k _ _)
  apply Quiet.ite (hset false _)
  apply Quiet.ite (hset true _)
  exact Quiet.ite (bystander_write cfg k _ _) (bystander_write cfg k _ _)

theorem bystander_checkLoginDelay (cfg : PreloginTunables) (k : Kernel W) :
    Bystander (checkLoginDelay cfg k) :=
  Quiet.whenever (bystander_sys trivial)

theorem bystander_checkLoginFails (cfg : PreloginTunables) (k : Kernel W) :
    Bystander (checkLoginFails cfg k) := by
  refine Quiet.bind (Quiet.modify fun _ => rfl) fun _ => ?_
  refine (bystander_getSess _).bind fun sess => Quiet.ite ?_ (Quiet.pure ())
  exact (bystander_sys (c := .shutdown vsftpCommandFd) trivial).bind fun _ => bystander_halt _

theorem bystander_vsfLogLine (cfg : PreloginTunables) (k : Kernel W) (what : LogEntryType)
    (text : Bytes) : Bystander (vsfLogLine cfg k what text) :=
  (bystander_sys (c := .log true (some what) text) trivial).bind fun _ =>
    (calm_checkPendingActions (keepsFs_unit k)).bystander

theorem bystander_checkLimits (cfg : PreloginTunables) (k : Kernel W) :
    Bystander (checkLimits cfg k) := by
  have hrefuse (reason : String) (status : FtpCode) (text : String) :
      Bystander (refuseConnection cfg k reason status text) :=
    (bystander_vsfLogLine cfg k _ _).bind fun _ => bystander_writeExit cfg k _ _ _
  refine (bystander_getSess _).bind fun sess => ?_
  apply Quiet.ite (hrefuse _ _ _)
  apply Quiet.ite (hrefuse _ _ _)
  exact Quiet.ite (hrefuse _ _ _) (bystander_vsfLogLine cfg k _ _)

theorem bystander_emitGreeting (cfg : PreloginTunables) (k : Kernel W) :
    Bystander (emitGreeting cfg k) := by
  refine (bystander_getSess _).bind fun sess => Quiet.ite ?_ ?_
  · refine (calm_vsfBannerWrite (keepsFs_unit k) _ _).bystander.bind fun _ => ?_
    exact Quiet.bind (Quiet.modify fun _ => rfl) fun _ => bystander_write cfg k _ _
  · match cfg.ftpdBanner with
    | none => exact bystander_write cfg k _ _
    | some banner => exact (calm_vsfCmdioWriteStr (keepsFs_unit k) _ _).bystander

theorem bystander_getCmdAndArg (cfg : PreloginTunables) (k : Kernel W) :
    Bystander (vsfCmdioGetCmdAndArg cfg.toTunables k) := by
  have hchk : Calm cfg.toTunables k (fun _ => ()) (checkPendingActions cfg.toTunables k) :=
    calm_checkPendingActions (keepsFs_unit k)
  have hread := calm_getCmdAndArgWith (keepsFs_unit k) hchk true
  exact hread.bystander.bind fun _ => Quiet.modify fun _ => rfl

/-! ## The commands -/

/-- In the end no name is stored. -/
abbrev Forgets (cfg : PreloginTunables) (userlist : Bytes) (m : M W Unit) : Prop :=
  Triple (loginRequirement cfg userlist) (fun s => s.session.userlistStr = userlist) m
    fun _ s => LoginInv cfg userlist s.session

theorem forgets_emptyUser : Forgets cfg userlist (emptyUser : M W Unit) := by
  intro s hlist
  rw [emptyUser, updateSession]
  exact wp_modifySess.mpr (LoginInv.of_empty hlist rfl)

theorem Bystander.forgets {m : M W α} {f : α → M W Unit} (h : Bystander m)
    (hf : ∀ a, Forgets cfg userlist (f a)) : Forgets cfg userlist (m >>= f) := by
  intro s hlist
  rw [wp_bind]
  refine h.wp fun a s1 hview => hf a s1 ?_
  have hsame : s1.session.userlistStr = s.session.userlistStr := congrArg (fun v => v.2.2) hview
  exact hsame.trans hlist

theorem vsfCmdioWriteExit_wp {status : FtpCode} {text : String} {exitVal : Int}
    {Q : α → State W → Prop} :
    wp (loginRequirement cfg userlist)
      (vsfCmdioWriteExit cfg.toTunables k status text exitVal) Q s := by
  have hk := keepsFs_unit k
  rw [vsfCmdioWriteExit, ftpWriteExit, wp_bind]
  have hactivate : Calm cfg.toTunables k (fun _ => ()) (vsfSysutilActivateNoblock k _) :=
    calm_activateNoblock hk vsftpCommandFd
  refine hactivate.bystander.wp fun _ _ _ => ?_
  rw [wp_bind]
  refine (bystander_sys (c := .shutdown vsftpCommandFd) trivial).wp fun _ _ _ => ?_
  rw [wp_bind]
  have hchk : Calm cfg.toTunables k (fun _ => ()) (checkPendingActions cfg.toTunables k) :=
    calm_checkPendingActions hk
  have hsend := calm_ftpWriteStrCommon hk hchk status 32 (bytes text)
  refine hsend.bystander.wp fun _ _ _ => ?_
  rw [wp_bind]
  refine (bystander_sys (c := .shutdown vsftpCommandFd) trivial).wp fun _ _ _ => ?_
  exact wp_halt.mpr trivial

/-- The login call is made for the stored name. -/
theorem processLogin_wp {pass : Bytes} {Q : Unit → State W → Prop}
    (hs : LoginInv cfg userlist s.session) (hne : s.session.userStr ≠ [])
    (hq : ∀ s', s'.session.loginView = s.session.loginView → Q () s') :
    wp (loginRequirement cfg userlist) (processLogin cfg k pass) Q s := by
  rw [processLogin, wp_bind, wp_getSess, wp_bind]
  refine wp_sys_any (fun user huser => ?_) fun res w => ?_
  · obtain rfl : s.session.userStr = user := Option.some.inj huser
    exact hs.user hne
  · match res with
    | some true => exact wp_halt.mpr trivial
    | some false => exact wp_pure.mpr (hq _ rfl)
    | none =>
        refine wp_ite.mpr ⟨fun _ => wp_bug.mpr trivial, fun _ => wp_die.mpr trivial⟩

theorem handlePassCommand_wp (hs : LoginInv cfg userlist s.session) :
    wp (loginRequirement cfg userlist) (handlePassCommand cfg k)
      (fun _ s' => LoginInv cfg userlist s'.session) s := by
  rw [handlePassCommand, wp_bind, wp_getSess]
  refine wp_ite.mpr ⟨fun _ => (bystander_write cfg k _ _).loginInv hs, fun hstored => ?_⟩
  have hne : s.session.userStr ≠ [] := by
    intro hempty
    exact hstored (by rw [State.sess_session, hempty]; rfl)
  rw [wp_bind]
  refine processLogin_wp hs hne fun s1 h1 => ?_
  have hforgets : Forgets cfg userlist (do
      vsfCmdioWrite cfg.toTunables k 530 "Login incorrect."
      checkLoginFails cfg k
      emptyUser) :=
    (bystander_write cfg k _ _).forgets fun _ =>
      (bystander_checkLoginFails cfg k).forgets fun _ => forgets_emptyUser
  exact hforgets s1 (hs.of_view h1).list

/-- What a name has passed when none of the branches that refuse it is taken. -/
theorem admitted_of_checks {sess : VsfSession} (hlist : sess.userlistStr = userlist)
    (hlocal : ¬ (!cfg.localEnable && !isAnonName sess.userStr) = true)
    (hanon : ¬ (isAnonName sess.userStr && sess.controlUseSsl && !cfg.allowAnonSsl &&
      !cfg.forceAnonLoginsSsl) = true)
    (hforceLocal : ¬ (cfg.sslEnable && !isAnonName sess.userStr && !sess.controlUseSsl &&
      cfg.forceLocalLoginsSsl) = true)
    (hforceAnon : ¬ (cfg.sslEnable && isAnonName sess.userStr && !sess.controlUseSsl &&
      cfg.forceAnonLoginsSsl) = true)
    (hrefuses : ¬ (cfg.userlistEnable && userlistRefuses cfg sess) = true) :
    Admitted cfg userlist sess.userStr sess.controlUseSsl where
  localLogins := by
    intro hname
    simpa [hname] using hlocal
  anonSsl := by
    intro hname hssl
    cases hallow : cfg.allowAnonSsl with
    | true => exact .inl rfl
    | false => simpa [hname, hssl, hallow] using hanon
  forceLocal := by
    intro hssl hname hforce
    simpa [hssl, hname, hforce] using hforceLocal
  forceAnon := by
    intro hssl hname hforce
    simpa [hssl, hname, hforce] using hforceAnon
  userlist := by
    intro henable
    unfold userlistRefuses at hrefuses
    rw [henable, hlist] at hrefuses
    cases hlocated : strContainsLine userlist sess.userStr <;>
      cases hdeny : cfg.userlistDeny <;> simp_all

theorem handleUserCommand_wp (hlist : s.session.userlistStr = userlist) :
    wp (loginRequirement cfg userlist) (handleUserCommand cfg k)
      (fun _ s' => LoginInv cfg userlist s'.session) s := by
  rw [handleUserCommand, wp_bind]
  refine wp_modifySess.mpr ?_
  rw [wp_bind, wp_getSess]
  generalize hs1 : State.setSess s .session _ = s1
  have hlist1 : s1.session.userlistStr = userlist := by
    rw [← hs1]
    exact hlist
  dsimp only [State.sess_session]
  have hrefuse (text : String) : Forgets cfg userlist (do
      vsfCmdioWrite cfg.toTunables k 530 text
      emptyUser) :=
    (bystander_write cfg k _ _).forgets fun _ => forgets_emptyUser
  have hdenied : Forgets cfg userlist (do
      checkLoginDelay cfg k
      vsfCmdioWrite cfg.toTunables k 530 "Permission denied."
      checkLoginFails cfg k
      emptyUser) :=
    (bystander_checkLoginDelay cfg k).forgets fun _ => (bystander_write cfg k _ _).forgets
      fun _ => (bystander_checkLoginFails cfg k).forgets fun _ => forgets_emptyUser
  refine wp_ite.mpr ⟨fun _ => hrefuse _ s1 hlist1, fun hlocal => ?_⟩
  refine wp_ite.mpr ⟨fun _ => hrefuse _ s1 hlist1, fun hanon => ?_⟩
  refine wp_ite.mpr ⟨fun _ => vsfCmdioWriteExit_wp, fun hforceLocal => ?_⟩
  refine wp_ite.mpr ⟨fun _ => vsfCmdioWriteExit_wp, fun hforceAnon => ?_⟩
  refine wp_ite.mpr ⟨fun _ => hdenied s1 hlist1, fun hrefuses => ?_⟩
  have hadmitted := admitted_of_checks hlist1 hlocal hanon hforceLocal hforceAnon hrefuses
  have hinv : LoginInv cfg userlist s1.session := ⟨hlist1, fun _ => hadmitted⟩
  refine wp_ite.mpr ⟨fun _ => ?_, fun _ => (bystander_write cfg k _ _).loginInv hinv⟩
  rw [wp_bind]
  exact wp_modifySess.mpr (handlePassCommand_wp (hinv.of_view rfl))

/-! ### AUTH -/

/-- A TLS handshake is about to be made for a control connection that is not encrypted. -/
def ServesAuth (cfg : PreloginTunables) (sess : VsfSession) : Prop :=
  knowsAuth cfg sess = true ∧ strUpper sess.ftpArgStr ∈ authTypes

instance (cfg : PreloginTunables) (sess : VsfSession) : Decidable (ServesAuth cfg sess) :=
  inferInstanceAs (Decidable (_ ∧ _))

/-- Encryption is not begun over a stored name that may not use it. -/
def AuthKeeps (cfg : PreloginTunables) (sess : VsfSession) : Prop :=
  ServesAuth cfg sess → isAnonName sess.userStr = true →
    cfg.allowAnonSsl = true ∨ cfg.forceAnonLoginsSsl = true

instance (cfg : PreloginTunables) (sess : VsfSession) : Decidable (AuthKeeps cfg sess) :=
  inferInstanceAs (Decidable (_ → _ → _))

/-- Once encrypted, a name passes whatever it passed before, but for one check. -/
theorem Admitted.encrypt {user : Bytes} {ssl : Bool} (h : Admitted cfg userlist user ssl)
    (hanon : isAnonName user = true → cfg.allowAnonSsl = true ∨ cfg.forceAnonLoginsSsl = true) :
    Admitted cfg userlist user true where
  localLogins := h.localLogins
  anonSsl := fun hname _ => hanon hname
  forceLocal := fun _ _ _ => rfl
  forceAnon := fun _ _ _ => rfl
  userlist := h.userlist

/-- The pair after a handshake is settled by the name before it. -/
theorem sslControlHandshake_wp {Q : Unit → State W → Prop}
    (hq : ∀ s', s'.session.loginView = (s.session.userStr, true, s.session.userlistStr) →
      Q () s') :
    wp (loginRequirement cfg userlist) (sslControlHandshake cfg k) Q s := by
  have hnoLogin (c : Syscall) (h : CalmCall c) (s' : State W) :
      LoginAdmitted cfg userlist ⟨c, s'⟩ := by
    intro user huser
    rw [loginUser_of_calm h] at huser
    exact absurd huser (by simp)
  rw [sslControlHandshake, wp_bind]
  refine wp_sys_any (fun user huser => absurd huser (by simp [Event.loginUser]))
    fun created w => ?_
  cases created with
  | true =>
      rw [if_pos rfl, wp_bind]
      refine wp_sys_any (hnoLogin (.sslHandshake _) trivial _) fun accepted w' => ?_
      refine wp_ite.mpr ⟨fun _ => ?_, fun _ => wp_die.mpr trivial⟩
      rw [updateSession]
      exact wp_modifySess.mpr (hq _ rfl)
  | false =>
      rw [if_neg Bool.false_ne_true, wp_bind, wp_get, wp_bind]
      have hwrite (text : Bytes) : Bystander (vsfCmdioWriteStr cfg.toTunables k 421 text) :=
        (calm_vsfCmdioWriteStr (keepsFs_unit k) _ _).bystander
      exact (hwrite _).wp fun _ _ _ => wp_halt.mpr trivial

theorem handleAuth_wp (hs : LoginInv cfg userlist s.session)
    (hknows : knowsAuth cfg s.session = true) (hkeeps : AuthKeeps cfg s.session) :
    wp (loginRequirement cfg userlist) (handleAuth cfg k)
      (fun _ s' => LoginInv cfg userlist s'.session) s := by
  rw [handleAuth, wp_bind, wp_getSess]
  dsimp only [State.sess_session]
  rw [wp_bind, updateSession, wp_modifySess]
  generalize hs1 : State.setSess s .session _ = s1
  have hview : s1.session.loginView = s.session.loginView := by
    rw [← hs1]
    rfl
  have hinv : LoginInv cfg userlist s1.session := hs.of_view hview
  refine wp_ite.mpr ⟨fun htype => ?_, fun _ => (bystander_write cfg k _ _).loginInv hinv⟩
  rw [wp_bind]
  refine (bystander_write cfg k _ _).wp fun _ s2 h2 => ?_
  have hinv2 : LoginInv cfg userlist s2.session := hinv.of_view h2
  have huser : s2.session.userStr = s.session.userStr := congrArg Prod.fst (h2.trans hview)
  rw [wp_bind]
  refine sslControlHandshake_wp fun s3 h3 => ?_
  have hinv3 : LoginInv cfg userlist s3.session := by
    have huser3 : s3.session.userStr = s2.session.userStr := congrArg Prod.fst h3
    have hssl3 : s3.session.controlUseSsl = true := congrArg (fun v => v.2.1) h3
    have hlist3 : s3.session.userlistStr = s2.session.userlistStr := congrArg (fun v => v.2.2) h3
    refine ⟨hlist3.trans hinv2.list, fun hne => ?_⟩
    rw [huser3] at hne
    rw [huser3, hssl3]
    refine (hinv2.user hne).encrypt fun hname => ?_
    rw [huser] at hname
    exact hkeeps ⟨hknows, htype⟩ hname
  have hdata : Bystander (Prog.whenever
      (strUpper s.session.ftpArgStr = bytes "SSL" ∨ strUpper s.session.ftpArgStr = bytes "TLS-P")
      (updateSession fun sess => { sess with dataUseSsl := true }) : M W Unit) :=
    Quiet.whenever (Quiet.modify fun _ => rfl)
  exact hdata.loginInv hinv3

/-! ### The dispatch -/

theorem handleFtpCommand_wp (hs : LoginInv cfg userlist s.session)
    (hkeeps : AuthKeeps cfg s.session) :
    wp (loginRequirement cfg userlist) (handleFtpCommand cfg k)
      (fun _ s' => LoginInv cfg userlist s'.session) s := by
  rw [handleFtpCommand, wp_bind, wp_getSess]
  dsimp only [State.sess_session]
  refine wp_ite.mpr ⟨fun _ => handleUserCommand_wp hs.list, fun _ => ?_⟩
  refine wp_ite.mpr ⟨fun _ => handlePassCommand_wp hs, fun _ => ?_⟩
  refine wp_ite.mpr ⟨fun _ => vsfCmdioWriteExit_wp, fun _ => ?_⟩
  refine wp_ite.mpr ⟨fun _ => (bystander_handleFeat cfg k).loginInv hs, fun _ => ?_⟩
  refine wp_ite.mpr ⟨fun _ => (bystander_handleOpts cfg k).loginInv hs, fun _ => ?_⟩
  refine wp_ite.mpr ⟨fun hknows => handleAuth_wp hs hknows hkeeps, fun _ => ?_⟩
  refine wp_ite.mpr ⟨fun _ => (bystander_handlePbsz cfg k).loginInv hs, fun _ => ?_⟩
  refine wp_ite.mpr ⟨fun _ => (bystander_handleProt cfg k).loginInv hs, fun _ => ?_⟩
  exact wp_ite.mpr ⟨fun _ => wp_pure.mpr hs, fun _ => (bystander_write cfg k _ _).loginInv hs⟩

theorem preloginTurn_wp (hftp : cfg.ftpEnable = true) (hs : LoginInv cfg userlist s.session)
    (hkeeps : ∀ start, (vsfCmdioGetCmdAndArg cfg.toTunables k s).2 = (start, .ok ()) →
      AuthKeeps cfg start.session) :
    wp (loginRequirement cfg userlist) (preloginTurn cfg k)
      (fun _ s' => LoginInv cfg userlist s'.session) s := by
  have hserve (start : State W) (hinv : LoginInv cfg userlist start.session)
      (hstart : AuthKeeps cfg start.session) :
      wp (loginRequirement cfg userlist) (servePrelogin cfg k)
        (fun _ s' => LoginInv cfg userlist s'.session) start := by
    rw [servePrelogin, if_pos hftp]
    exact handleFtpCommand_wp hinv hstart
  rw [preloginTurn, wp_bind]
  have hread := (bystander_getCmdAndArg cfg k).loginInv hs
  exact hread.reached.mono fun _ start hstart => hserve start hstart.1 (hkeeps start hstart.2)

/-! ## Runs -/

/-- `i` commands after the connection `s` the loop is at its top in `top`. -/
def PreloginTop (cfg : PreloginTunables) (k : Kernel W) (s : State W) (i : Nat)
    (top : State W) : Prop :=
  (initConnection cfg k i s).2 = (top, .ok ())

/-- A command after the connection `s` begins in `start`: it has been read. -/
def PreloginBegins (cfg : PreloginTunables) (k : Kernel W) (s : State W) (i : Nat)
    (start : State W) : Prop :=
  ∃ top, PreloginTop cfg k s i top ∧
    (vsfCmdioGetCmdAndArg cfg.toTunables k top).2 = (start, .ok ())

theorem startConnection_wp (hlist : s.session.userlistStr = userlist)
    (hempty : s.session.userStr = []) :
    wp (loginRequirement cfg userlist) (startConnection cfg k)
      (fun _ s' => LoginInv cfg userlist s'.session) s := by
  rw [startConnection, wp_bind]
  have hgreet (s1 : State W) (h1 : LoginInv cfg userlist s1.session) :
      wp (loginRequirement cfg userlist)
        (Prog.whenever (cfg.ftpEnable = true) (emitGreeting cfg k))
        (fun _ s' => LoginInv cfg userlist s'.session) s1 :=
    Bystander.loginInv (Quiet.whenever (bystander_emitGreeting cfg k)) h1
  have halarm : Bystander (vsfCmdioSetAlarm cfg.toTunables : M W Unit) :=
    Quiet.whenever (Quiet.modify fun _ => rfl)
  refine halarm.wp fun _ s1 h1 => ?_
  rw [wp_bind]
  refine (bystander_checkLimits cfg k).wp fun _ s2 h2 => ?_
  have hview : s2.session.loginView = s.session.loginView := h2.trans h1
  have hempty2 : s2.session.userStr = [] := (congrArg Prod.fst hview).trans hempty
  have hlist2 : s2.session.userlistStr = userlist :=
    (congrArg (fun v => v.2.2) hview).trans hlist
  rw [wp_bind]
  refine wp_whenever.mpr ⟨fun _ => ?_, fun _ => hgreet s2 (.of_empty hlist2 hempty2)⟩
  refine sslControlHandshake_wp fun s3 h3 => hgreet s3 ?_
  exact .of_empty ((congrArg (fun v => v.2.2) h3).trans hlist2)
    ((congrArg Prod.fst h3).trans hempty2)

/-- When AUTH never begins encryption over a stored name that may not use it, whoever is
logged in is let through by USER for the encryption at that time. -/
theorem loginAdmitted_of_authKeeps (cfg : PreloginTunables) (k : Kernel W) (sess : VsfSession)
    (world : W) (n : Nat) (hftp : cfg.ftpEnable = true)
    (hkeeps : ∀ i start, i < n → PreloginBegins cfg k (atConnection sess world) i start →
      AuthKeeps cfg start.session) :
    ∀ e ∈ (initConnection cfg k n (atConnection sess world)).1,
      LoginAdmitted cfg sess.userlistStr e := by
  have hstart : wp (loginRequirement cfg sess.userlistStr) (startConnection cfg k)
      (fun _ s' => LoginInv cfg sess.userlistStr s'.session) (atConnection sess world) :=
    startConnection_wp rfl rfl
  have hrun : wp (loginRequirement cfg sess.userlistStr) (initConnection cfg k n)
      (fun _ s' => LoginInv cfg sess.userlistStr s'.session) (atConnection sess world) := by
    rw [initConnection, wp_bind]
    refine hstart.reached.mono fun _ s1 h1 => ?_
    refine wp_iterate_of_leads h1.1 fun i top hi htop hinv => ?_
    refine preloginTurn_wp hftp hinv fun start hread => ?_
    exact hkeeps i start hi ⟨top, Prog.bind_result h1.2 htop, hread⟩
  exact hrun.1

/-! ### Two clients -/

/-- The connection of a client that sends `lines`. -/
def scriptConnection (lines : List String) : State Script :=
  atConnection (localClient false) { lines := lines.map bytes }

/-- The state in which command `i` of a script begins. -/
def preloginStart (cfg : PreloginTunables) (lines : List String) (i : Nat) : State Script :=
  (vsfCmdioGetCmdAndArg cfg.toTunables scriptKernel
    (initConnection cfg scriptKernel i (scriptConnection lines)).2.1).2.1

theorem eq_preloginStart {lines : List String} {i : Nat} {start : State Script}
    (h : PreloginBegins cfg scriptKernel (scriptConnection lines) i start) :
    start = preloginStart cfg lines i := by
  obtain ⟨top, htop, hread⟩ := h
  have hloop : (initConnection cfg scriptKernel i (scriptConnection lines)).2.1 = top :=
    congrArg Prod.fst htop
  unfold preloginStart
  rw [hloop]
  exact (congrArg Prod.fst hread).symm

/-- Local users may log in with and without encryption. -/
def localLogins : PreloginTunables where
  sslEnable := true
  localEnable := true
  forceLocalLoginsSsl := false

/-- Encryption is begun between the name and the password of a local user. -/
def encryptsLocal : List String := ["USER alice", "AUTH TLS", "PASS x"]

theorem encryptsLocal_authKeeps (i : Nat) (start : State Script) (hi : i < 3)
    (hbegins : PreloginBegins localLogins scriptKernel (scriptConnection encryptsLocal) i start) :
    AuthKeeps localLogins start.session := by
  rw [eq_preloginStart hbegins]
  clear hbegins
  match i, hi with
  | 0, _ => decide +kernel
  | 1, _ => decide +kernel
  | 2, _ => decide +kernel

theorem loginAdmitted_encryptsLocal :
    ((initConnection localLogins scriptKernel 3 (scriptConnection encryptsLocal)).1.any
        fun e => e.loginUser.isSome) = true ∧
      ∀ e ∈ (initConnection localLogins scriptKernel 3 (scriptConnection encryptsLocal)).1,
        LoginAdmitted localLogins [] e :=
  ⟨by decide +kernel, loginAdmitted_of_authKeeps localLogins scriptKernel (localClient false)
    { lines := encryptsLocal.map bytes } 3 rfl encryptsLocal_authKeeps⟩

/-- The same with an anonymous name. -/
def encryptsAnonymous : List String := ["USER ftp", "AUTH TLS", "PASS x"]

/-- An anonymous session that uses encryption, which USER refuses. -/
theorem encryptsAnonymous_not_admitted :
    ¬ ∀ e ∈ (initConnection { sslEnable := true } scriptKernel 3
        (scriptConnection encryptsAnonymous)).1,
      LoginAdmitted { sslEnable := true } [] e := by
  decide +kernel

end Vsftpd.Session
