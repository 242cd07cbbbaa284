import Vsftpd.Session.Endpoints

/-!
# Data connections

From the check that there is an endpoint to the end of a data connection.  Between
the two the core is that of a settled state with the connection attached.
-/

namespace Vsftpd.Session

open Vsftpd.Lib

variable {W X α : Type} {cfg : Tunables} {k : Kernel W} {base : VsfSession} {φ : W → X}
  {may : SockAddr → Prop} {start s : State W}

/-! ## `port_active` and `pasv_active` -/

theorem pasvActive_off (n : Nat) {Q : Bool → State W → Prop} (hk : KeepsFs k φ)
    (h : Ready cfg base (s.core φ)) (hoff : (s.core φ).listener cfg = -1)
    (hq : ∀ s', s'.core φ = s.core φ → Q false s') :
    wp (sessionRequirement cfg k base φ may start) (pasvActive cfg k (n + 1)) Q s := by
  rw [pasvActive, wp_bind]
  refine askPasvActive_wp hk h fun a s1 h1 ha => wp_ite.mpr ⟨fun hactive => ?_, fun _ => ?_⟩
  · exact absurd hoff (ha.mp hactive)
  · exact wp_pure.mpr (hq s1 h1)

theorem portActive_off (n : Nat) {Q : Bool → State W → Prop}
    (hoff : (s.core φ).portSockaddr = none) (hq : Q false s) :
    wp (sessionRequirement cfg k base φ may start) (portActive cfg k (n + 1)) Q s := by
  rw [portActive, wp_bind, wp_getSess]
  have hnone : (s.sess .session).portSockaddr = none := hoff
  rw [hnone]
  exact wp_pure.mpr hq

/-- Neither calls the other more than once, since not both endpoints are there. -/
theorem pasvActive_wp (n : Nat) {Q : Bool → State W → Prop} (hk : KeepsFs k φ)
    (h : Settled cfg base may (s.core φ))
    (hq : ∀ a s', s'.core φ = s.core φ → (a = true ↔ (s.core φ).listener cfg ≠ -1) → Q a s') :
    wp (sessionRequirement cfg k base φ may start) (pasvActive cfg k (n + 2)) Q s := by
  rw [pasvActive, wp_bind]
  refine askPasvActive_wp hk h.toReady fun a s1 h1 ha => ?_
  refine wp_ite.mpr ⟨fun hactive => ?_, fun hoff => ?_⟩
  · have hport : (s1.core φ).portSockaddr = none := by
      rw [h1]
      exact h.notBoth.resolve_right (ha.mp hactive)
    rw [wp_bind]
    refine portActive_off n hport ?_
    refine wp_ite.mpr ⟨fun hfalse => absurd hfalse (by decide), fun _ => ?_⟩
    exact wp_pure.mpr (hq true s1 h1 ⟨fun _ => ha.mp hactive, fun _ => rfl⟩)
  · have hfalse : a = false := Bool.eq_false_iff.mpr hoff
    exact wp_pure.mpr (hq false s1 h1 (hfalse ▸ ha))

theorem portActive_wp (n : Nat) {Q : Bool → State W → Prop} (hk : KeepsFs k φ)
    (h : Settled cfg base may (s.core φ))
    (hq : ∀ a s', s'.core φ = s.core φ → (a = true ↔ (s.core φ).portSockaddr ≠ none) → Q a s') :
    wp (sessionRequirement cfg k base φ may start) (portActive cfg k (n + 2)) Q s := by
  rw [portActive, wp_bind, wp_getSess]
  refine wp_ite.mpr ⟨fun hnone => wp_pure.mpr ?_, fun hsome => ?_⟩
  · have hport : (s.core φ).portSockaddr = none := Option.isNone_iff_eq_none.mp hnone
    exact hq false s rfl ⟨fun hfalse => absurd hfalse (by decide), fun hne => absurd hport hne⟩
  · have hport : (s.core φ).portSockaddr ≠ none := fun hnone =>
      hsome (Option.isNone_iff_eq_none.mpr hnone)
    rw [wp_bind]
    refine pasvActive_off n hk h.toReady (h.notBoth.resolve_left hport) fun s1 h1 => ?_
    refine wp_ite.mpr ⟨fun hfalse => absurd hfalse (by decide), fun _ => wp_pure.mpr ?_⟩
    exact hq true s1 h1 ⟨fun _ => hport, fun _ => rfl⟩

theorem anyActive_wp {Q : Bool → State W → Prop} (hk : KeepsFs k φ)
    (h : Settled cfg base may (s.core φ))
    (hq : ∀ a s', s'.core φ = s.core φ → (a = true ↔ Active cfg (s.core φ)) → Q a s') :
    wp (sessionRequirement cfg k base φ may start) (anyActive cfg k) Q s := by
  rw [anyActive, wp_bind]
  refine pasvActive_wp 6 hk h fun a s1 h1 ha => wp_ite.mpr ⟨fun hpasv => ?_, fun hpasv => ?_⟩
  · exact wp_pure.mpr (hq true s1 h1 ⟨fun _ => .inl (ha.mp hpasv), fun _ => rfl⟩)
  · refine portActive_wp 6 hk (h1 ▸ h) fun b s2 h2 hb => hq b s2 (h2.trans h1) ?_
    rw [h1] at hb
    have hoff : ¬ (s.core φ).listener cfg ≠ -1 := fun hne => hpasv (ha.mpr hne)
    exact hb.trans ⟨.inr, fun hactive => hactive.resolve_left hoff⟩

/-- `data_transfer_checks_ok` -/
theorem dataTransferChecksOk_wp {Q : Bool → State W → Prop} (hk : KeepsFs k φ)
    (h : Settled cfg base may (s.core φ))
    (hq : ∀ a s', s'.core φ = s.core φ →
      (a = true → Active cfg (s.core φ) ∧ needsEncryption cfg s.session = false) → Q a s') :
    wp (sessionRequirement cfg k base φ may start) (dataTransferChecksOk cfg k) Q s := by
  rw [dataTransferChecksOk, wp_bind]
  refine anyActive_wp hk h fun a s1 h1 ha => ?_
  have hrun : Running cfg base (s1.core φ) := h1 ▸ h.running
  rw [wp_bind, wp_getSess]
  -- both refusals
  have hrefuse (status : FtpCode) (text : String) :
      wp (sessionRequirement cfg k base φ may start)
        (do
          vsfCmdioWrite cfg k status text
          pure false) Q s1 := by
    rw [wp_bind]
    refine Calm.wp (calm_vsfCmdioWrite hk _ _) hrun fun _ s2 h2 _ => wp_pure.mpr ?_
    exact hq false s2 (h2.trans h1) fun hfalse => absurd hfalse (by decide)
  refine wp_ite.mpr ⟨fun _ => hrefuse _ _, fun hactive => ?_⟩
  refine wp_ite.mpr ⟨fun _ => hrefuse _ _, fun hplain =>
    wp_pure.mpr (hq true s1 h1 fun _ => ⟨?_, ?_⟩)⟩
  · exact ha.mp (by simpa using hactive)
  · have hsteady : needsEncryption cfg s.session.steady = needsEncryption cfg s1.session.steady :=
      congrArg (fun c : Core X => needsEncryption cfg c.steady) h1.symm
    exact hsteady.trans (Bool.eq_false_iff.mpr hplain)

/-! ## The connection is attached -/

def Core.attach (c : Core X) (fd : Fd) (sock : Sock) : Core X :=
  { c with dataFd := fd, dataSock := sock, ioHandler := true }

/-- A descriptor that is there, with a socket that may serve. -/
structure Connection (cfg : Tunables) (base : VsfSession) (fd : Fd) (sock : Sock) : Prop where
  nonneg : 0 ≤ fd
  dataConn : DataConn cfg base sock

theorem Connection.ne {fd : Fd} {sock : Sock} (h : Connection cfg base fd sock) : fd ≠ -1 :=
  ne_neg_one_of_nonneg h.nonneg

theorem Connection.running {fd : Fd} {sock : Sock} {c : Core X}
    (h : Connection cfg base fd sock) (hi : Idle c) : Running cfg base (c.attach fd sock) where
  inv :=
    { linked := fun _ => ⟨fun _ => rfl, fun _ => h.ne⟩
      dataConn := fun _ => h.dataConn }
  turn := hi.turn

/-- While the connection is set up or given up only the socket matters. -/
theorem DataConn.running {c : Core X} (h : DataConn cfg base c.dataSock)
    (hsetup : c.inDataSetup = true) (hturn : c.turn = .session) : Running cfg base c where
  inv :=
    { linked := fun hout => absurd (hsetup.symm.trans hout) (by decide)
      dataConn := fun _ => h }
  turn := hturn

theorem calm_activateOption (hk : KeepsFs k φ) (fd : Fd) (failure : String)
    (hfailure : failure ∉ lockstepFailures) :
    Calm cfg k φ (activateOption k fd failure) :=
  Quiet.bind (calm_sys hk trivial) fun _ => Quiet.ite (Quiet.pure ()) (calm_die _ hfailure)

theorem initDataSockParams_wp {fd : Fd} {Q : Unit → State W → Prop} (hk : KeepsFs k φ)
    (hd : Detached (s.core φ)) (hi : Idle (s.core φ))
    (hconn : Connection cfg base fd (s.socks fd))
    (hq : ∀ s', s'.core φ = (s.core φ).attach fd (s.socks fd) → Q () s') :
    wp (sessionRequirement cfg k base φ may start) (initDataSockParams cfg k fd) Q s := by
  rw [initDataSockParams, setInDataSetup, wp_bind, wp_modify, wp_bind, wp_getSess]
  refine wp_ite.mpr ⟨fun hne => absurd hd.dataFd hne, fun _ => ?_⟩
  rw [wp_bind, setDataFd, updateSession, wp_modifySess, wp_bind, updateSession, wp_modifySess]
  generalize hs1 : State.setSess _ _ _ = s1
  have h1 : s1.core φ =
      { s.core φ with dataFd := fd, dataSock := s.socks fd, inDataSetup := true } := by
    have hsock : (if fd = -1 then {} else s.socks fd) = s.socks fd := if_neg hconn.ne
    rw [← hs1]
    calc _ = { s.core φ with
          dataFd := fd, dataSock := if fd = -1 then {} else s.socks fd, inDataSetup := true } := rfl
      _ = _ := by rw [hsock]
  have hrun : Running cfg base (s1.core φ) := by
    rw [h1]
    exact hconn.dataConn.running rfl hi.turn
  rw [wp_bind]
  refine Calm.wp (calm_activateOption hk _ _ (by decide)) hrun fun _ s2 h2 _ => ?_
  rw [wp_bind]
  refine Calm.wp (calm_sys hk trivial) (h2 ▸ hrun) fun _ s3 h3 _ => ?_
  have h31 := h3.trans (h2.trans h1)
  rw [wp_bind, vsfSysutilInstallIoHandler, wp_bind, wp_get]
  have hio : s3.ioHandler = false := (congrArg Core.ioHandler h31).trans hd.ioHandler
  refine wp_ite.mpr ⟨fun htrue => absurd (hio.symm.trans htrue) (by decide), fun _ => ?_⟩
  rw [wp_modify, wp_bind]
  have h4 : ({ s3 with ioHandler := true } : State W).core φ =
      { s.core φ with
        dataFd := fd, dataSock := s.socks fd, inDataSetup := true, ioHandler := true } := by
    calc _ = { s3.core φ with ioHandler := true } := rfl
      _ = _ := by rw [h31]
  refine Calm.wp calm_startDataAlarm ?_ fun _ s5 h5 _ => wp_modify.mpr (hq _ ?_)
  · rw [h4]
    exact hconn.dataConn.running rfl hi.turn
  · calc ({ s5 with inDataSetup := false } : State W).core φ
        = { s5.core φ with inDataSetup := false } := rfl
      _ = (s.core φ).attach fd (s.socks fd) := by
        rw [h5, h4, Core.attach, ← hd.inDataSetup]

/-! ## The connection is given up -/

/-- An answer of the SSL slave that does not come ends the session. -/
theorem calm_slaveResult (cmd : UInt8) (w : W) :
    Calm cfg k φ (slaveResult (k.run (.sslSlave cmd) w).1 : M W Bool) := by
  cases hres : (k.run (.sslSlave cmd) w).1 with
  | none =>
      refine Quiet.halt ⟨fun _ => .inr ⟨rfl, cmd, w, hres⟩, fun heq => ?_⟩
      exact absurd (Halt.die.inj heq) (by decide)
  | some r => exact Quiet.pure _

theorem calm_askSlave (hk : KeepsFs k φ) (cmd : UInt8) :
    Calm cfg k φ (do
      let res ← sys k (.sslSlave cmd)
      checkPendingActions cfg k
      slaveResult res) :=
  calm_sys_bind hk trivial fun w => Quiet.bind (calm_checkPendingActions hk) fun _ =>
    calm_slaveResult cmd w

theorem calm_closeDataSsl (hk : KeepsFs k φ) (sess : VsfSession) :
    Calm cfg k φ (closeDataSsl cfg k sess) := by
  refine Quiet.ite ?_ (Quiet.ite ?_ (Quiet.pure _))
  · exact Quiet.bind calm_startDataAlarm fun _ => calm_askSlave hk _
  · exact Quiet.bind calm_startDataAlarm fun _ => Quiet.bind (calm_sys hk trivial) fun _ =>
      Quiet.bind (calm_checkPendingActions hk) fun _ =>
        Quiet.bind (Quiet.modify fun _ => rfl) fun _ => Quiet.pure _

theorem closeDataFd_wp {fd : Fd} {Q : Unit → State W → Prop} (hk : KeepsFs k φ)
    (hrun : Running cfg base (s.core φ))
    (hq : ∀ (s' : State W) socks, s'.core φ = s.core φ → Q () { s' with socks := socks }) :
    wp (sessionRequirement cfg k base φ may start) (closeDataFd k fd) Q s := by
  rw [closeDataFd, wp_bind]
  refine Calm.wp (calm_sys hk trivial) hrun fun ok s1 h1 _ => ?_
  rw [wp_bind]
  have hagain : Calm cfg k φ (do
      let _ ← sys k (.setsockopt fd)
      let _ ← sys k (.close fd)
      pure ()) :=
    Quiet.bind (calm_sys hk trivial) fun _ => Quiet.bind (calm_sys hk trivial) fun _ =>
      Quiet.pure ()
  refine Calm.wp (Quiet.whenever hagain) (h1 ▸ hrun) fun _ s2 h2 _ => ?_
  exact wp_modifySock.mpr (hq s2 _ (h2.trans h1))

theorem core_detach (s : State W) (socks : Fd → Sock) :
    ({ s with
        socks := socks
        session := { s.session with dataFd := -1 }
        inDataSetup := false } : State W).core φ =
      { s.core φ with dataFd := -1, dataSock := {}, inDataSetup := false } :=
  rfl

theorem Detached.detach_attach {c : Core X} (h : Detached c) (fd : Fd) (sock : Sock) :
    { c.attach fd sock with
      ioHandler := false, dataFd := -1, dataSock := {}, inDataSetup := false } = c := by
  apply Core.ext
  case dataFd => exact h.dataFd.symm
  case dataSock => exact h.dataSock.symm
  case ioHandler => exact h.ioHandler.symm
  case inDataSetup => exact h.inDataSetup.symm
  all_goals rfl

/-- After `vsf_ftpdataio_dispose_transfer_fd` the core is as it was before the connection
was attached. -/
theorem dispose_wp {c : Core X} {fd : Fd} {sock : Sock} {Q : Bool → State W → Prop}
    (hk : KeepsFs k φ) (hd : Detached c) (hi : Idle c) (hconn : Connection cfg base fd sock)
    (hs : s.core φ = c.attach fd sock) (hq : ∀ a s', s'.core φ = c → Q a s') :
    wp (sessionRequirement cfg k base φ may start) (vsfFtpdataioDisposeTransferFd cfg k) Q s := by
  have hfd : s.session.dataFd = fd := congrArg Core.dataFd hs
  rw [vsfFtpdataioDisposeTransferFd, setInDataSetup, wp_bind, wp_modify, wp_bind, wp_getSess]
  refine wp_ite.mpr ⟨fun hnone => absurd (hfd.symm.trans hnone) hconn.ne, fun _ => ?_⟩
  rw [wp_bind, vsfSysutilUninstallIoHandler, wp_bind, wp_get]
  have hio : s.ioHandler = true := congrArg Core.ioHandler hs
  refine wp_ite.mpr ⟨fun hfalse => absurd hfalse (by simp [hio]), fun _ => ?_⟩
  rw [wp_modify, wp_bind]
  generalize hs1 : ({ s with inDataSetup := true, ioHandler := false } : State W) = s1
  have h1 : s1.core φ =
      { c.attach fd sock with inDataSetup := true, ioHandler := false } := by
    rw [← hs1, ← hs]
    rfl
  have hrun : Running cfg base (s1.core φ) := by
    rw [h1]
    exact hconn.dataConn.running rfl hi.turn
  refine Calm.wp (calm_closeDataSsl hk _) hrun fun closed s2 h2 _ => ?_
  rw [wp_bind, wp_getSess, wp_bind]
  have hlinger (sess : VsfSession) : Calm cfg k φ (do
      startDataAlarm cfg
      activateOption k sess.dataFd "setsockopt: linger") :=
    Quiet.bind calm_startDataAlarm fun _ => calm_activateOption hk _ _ (by decide)
  refine Calm.wp (Quiet.whenever (hlinger _)) (h2 ▸ hrun) fun _ s3 h3 _ => ?_
  rw [wp_bind]
  have h31 := h3.trans (h2.trans h1)
  refine closeDataFd_wp hk (h3.trans h2 ▸ hrun) fun s4 socks h4 => ?_
  rw [wp_bind, setDataFd, updateSession, wp_modifySess, wp_bind, setInDataSetup, wp_modify, wp_pure]
  refine hq _ _ ((core_detach s4 socks).trans ?_)
  rw [h4, h31]
  exact hd.detach_attach fd sock

/-! ## Getting a connection -/

/-- A failure with its reply. -/
theorem connectFailure_wp {fd : Fd} {text : String} {Q : Fd → State W → Prop} (hk : KeepsFs k φ)
    (hrun : Running cfg base (s.core φ)) (hq : ∀ s', s'.core φ = s.core φ → Q fd s') :
    wp (sessionRequirement cfg k base φ may start)
      (do
        vsfCmdioWrite cfg k 425 text
        pure fd) Q s := by
  rw [wp_bind]
  exact Calm.wp (calm_vsfCmdioWrite hk _ _) hrun fun _ s1 h1 _ => wp_pure.mpr (hq s1 h1)

theorem attach_wp {fd : Fd} {Q : Fd → State W → Prop} (hk : KeepsFs k φ)
    (h : Ready cfg base (s.core φ)) (hconn : Connection cfg base fd (s.socks fd))
    (hq : ∀ s', s'.core φ = (s.core φ).attach fd (s.socks fd) → Q fd s') :
    wp (sessionRequirement cfg k base φ may start)
      (do
        initDataSockParams cfg k fd
        pure fd) Q s := by
  rw [wp_bind]
  exact initDataSockParams_wp hk h.toDetached h.toIdle hconn fun s1 h1 => wp_pure.mpr (hq s1 h1)

/-- Either there is no connection, or it is attached. -/
theorem getTransferFd_wp {pasv : Bool} {Q : Fd → State W → Prop} (hk : KeepsFs k φ)
    (h : Settled cfg base may (s.core φ)) (hon : pasv = true → (s.core φ).listener cfg ≠ -1)
    (hnone : ∀ fd s', fd < 0 → s'.core φ = s.core φ → Q fd s')
    (hsome : ∀ fd sock s', Connection cfg base fd sock →
      s'.core φ = (s.core φ).attach fd sock → Q fd s') :
    wp (sessionRequirement cfg k base φ may start) (getTransferFd cfg k pasv) Q s := by
  have hrun := h.running
  refine wp_ite.mpr ⟨fun hpasv => ?_, fun _ => ?_⟩
  · rw [vsfFtpdataioGetPasvFd, wp_bind]
    refine acceptPasv_wp hk h.toReady (hon hpasv) fun fd s1 h1 hoffered => ?_
    refine wp_ite.mpr ⟨fun hone => ?_, fun hone => wp_ite.mpr ⟨fun _ => ?_, fun htwo => ?_⟩⟩
    · subst hone
      exact connectFailure_wp hk (h1 ▸ hrun) fun s2 h2 => hnone _ s2 (by decide) (h2.trans h1)
    · exact connectFailure_wp hk (h1 ▸ hrun) fun s2 h2 => hnone _ s2 (by decide) (h2.trans h1)
    · have hoff := (hoffered.resolve_left hone).resolve_left htwo
      refine attach_wp hk (h1 ▸ h.toReady) ⟨hoff.1, hoff.2⟩ fun s2 h2 => ?_
      exact hsome fd _ s2 ⟨hoff.1, hoff.2⟩ (h1 ▸ h2)
  · rw [vsfFtpdataioGetPortFd, wp_bind]
    refine getPrivDataSock_wp hk h fun fd s1 h1 hoffered => ?_
    refine wp_ite.mpr ⟨fun _ => ?_, fun hfd => ?_⟩
    · exact connectFailure_wp hk (h1 ▸ hrun) fun s2 h2 => hnone _ s2 (by decide) (h2.trans h1)
    · have hconn : Connection cfg base fd (s1.socks fd) :=
        ⟨Int.not_lt.mp hfd, hoffered.dataConn hfd⟩
      exact attach_wp hk (h1 ▸ h.toReady) hconn fun s2 h2 => hsome fd _ s2 hconn (h1 ▸ h2)

/-- The slave is passed the connection and makes the handshake. -/
theorem acceptDataSsl_wp {Q : Bool → State W → Prop} (hk : KeepsFs k φ)
    (hrun : Running cfg base (s.core φ))
    (hslave : s.session.sslSlaveActive = base.sslSlaveActive)
    (hq : ∀ ok s', s'.core φ = s.core φ → Q ok s') :
    wp (sessionRequirement cfg k base φ may start) (acceptDataSsl cfg k s.session) Q s := by
  refine wp_ite.mpr ⟨fun _ => ?_, fun hactive => ?_⟩
  · have hcalm : Calm cfg k φ (do
        let ok ← sys k (.sslHandshake s.session.dataFd)
        checkPendingActions cfg k
        updateSession fun sess => { sess with dataSsl := ok }
        pure ok) :=
      Quiet.bind (calm_sys hk trivial) fun _ => Quiet.bind (calm_checkPendingActions hk) fun _ =>
        Quiet.bind (Quiet.modify fun _ => rfl) fun _ => Quiet.pure _
    exact Calm.wp (Quiet.ite (calm_die _ (by decide)) hcalm) hrun fun ok s' h' _ => hq ok s' h'
  · have hbase : base.sslSlaveActive = true := by
      rw [← hslave]
      simpa using hactive
    rw [wp_bind, wp_sys]
    refine ⟨hrun.eventOk fun _ => .inr hbase, ?_⟩
    have h1 := core_run hk (c := .sendFd s.session.dataFd) trivial s
    refine wp_ite.mpr ⟨fun _ => ?_, fun _ => wp_die.mpr (answerable_die _ _ _ _ (by decide))⟩
    exact Calm.wp (calm_askSlave hk _) (h1 ▸ hrun) fun ok s' h' _ => hq ok s' (h'.trans h1)

/-- `vsf_ftpdataio_post_mark_connect` -/
theorem postMarkConnect_wp {Q : Bool → State W → Prop} (hk : KeepsFs k φ)
    (hrun : Running cfg base (s.core φ))
    (hslave : s.session.sslSlaveActive = base.sslSlaveActive)
    (hq : ∀ ok s', s'.core φ = s.core φ → Q ok s') :
    wp (sessionRequirement cfg k base φ may start) (vsfFtpdataioPostMarkConnect cfg k) Q s := by
  rw [vsfFtpdataioPostMarkConnect, wp_bind, wp_getSess]
  refine wp_ite.mpr ⟨fun _ => wp_pure.mpr (hq true s rfl), fun _ => ?_⟩
  rw [wp_bind]
  refine acceptDataSsl_wp hk hrun hslave fun ok s1 h1 => wp_ite.mpr ⟨fun _ => ?_, fun _ => ?_⟩
  · exact wp_pure.mpr (hq true s1 h1)
  · have hrefused : Calm cfg k φ (do
        vsfCmdioWrite cfg k 522 "SSL connection failed"
        pure false) :=
      Quiet.bind (calm_vsfCmdioWrite hk _ _) fun _ => Quiet.pure _
    exact Calm.wp (Quiet.ite (calm_vsfCmdioWriteExit hk _ _ _) hrefused) (h1 ▸ hrun)
      fun ok s2 h2 _ => hq ok s2 (h2.trans h1)

/-- `get_remote_transfer_fd` -/
theorem getRemoteTransferFd_wp {statusMsg : Bytes} {Q : Fd → State W → Prop} (hk : KeepsFs k φ)
    (h : Settled cfg base may (s.core φ)) (hactive : Active cfg (s.core φ))
    (hnone : ∀ fd s', fd < 0 → s'.core φ = s.core φ → Q fd s')
    (hsome : ∀ fd sock s', Connection cfg base fd sock →
      s'.core φ = (s.core φ).attach fd sock → Q fd s') :
    wp (sessionRequirement cfg k base φ may start) (getRemoteTransferFd cfg k statusMsg) Q s := by
  rw [getRemoteTransferFd, wp_bind]
  refine anyActive_wp hk h fun a s1 h1 ha => wp_ite.mpr ⟨fun hoff => ?_, fun _ => ?_⟩
  · exact absurd (ha.mpr hactive) (by simpa using hoff)
  rw [wp_bind, updateSession, wp_modifySess, wp_bind]
  generalize hs2 : State.setSess _ _ _ = s2
  have h2 : s2.core φ = s.core φ := by
    rw [← hs2, ← h1]
    rfl
  refine pasvActive_wp 6 hk (h2 ▸ h) fun pasv s3 h3 hpasv => ?_
  have h32 := h3.trans h2
  rw [h2, ← h32] at hpasv
  rw [wp_bind]
  refine getTransferFd_wp hk (h32 ▸ h) hpasv.mp (fun fd s4 hneg h4 => ?_)
    fun fd sock s4 hconn h4 => ?_
  · exact wp_ite.mpr ⟨fun _ => wp_pure.mpr (hnone fd s4 hneg (h4.trans h32)),
      fun hnonneg => absurd hneg hnonneg⟩
  · rw [h32] at h4
    refine wp_ite.mpr ⟨fun hneg => absurd hconn.nonneg (Int.not_le.mpr hneg), fun _ => ?_⟩
    have hrun := hconn.running h.toIdle
    rw [wp_bind]
    refine Calm.wp (calm_vsfCmdioWriteStr hk _ _) (h4 ▸ hrun) fun _ s5 h5 _ => ?_
    have h54 := h5.trans h4
    rw [wp_bind]
    have hslave5 : s5.session.sslSlaveActive = base.sslSlaveActive :=
      (congrArg (fun c => c.steady.sslSlaveActive) h54).trans h.sslSlaveActive
    refine postMarkConnect_wp hk (h54 ▸ hrun) hslave5 fun ok s6 h6 => ?_
    have h64 := h6.trans h54
    refine wp_ite.mpr ⟨fun _ => wp_pure.mpr (hsome fd sock s6 hconn h64), fun _ => ?_⟩
    rw [wp_bind]
    exact dispose_wp hk h.toDetached h.toIdle hconn h64 fun _ s7 h7 =>
      wp_pure.mpr (hnone _ s7 (by decide) h7)

/-! ## Using it and giving up the endpoints -/

theorem transferFile_wp {c : Core X} {remoteFd fileFd : Fd} {sock : Sock} {isRecv isAscii : Bool}
    {Q : VsfTransferRet → State W → Prop} (hk : KeepsFs k φ)
    (hi : Idle c) (hconn : Connection cfg base remoteFd sock)
    (hs : s.core φ = c.attach remoteFd sock)
    (hupload : isRecv = true → ∃ f, IsUpload cfg k base φ start s fileFd f)
    (hq : ∀ ret s', s'.core φ = s.core φ → Q ret s') :
    wp (sessionRequirement cfg k base φ may start)
      (vsfFtpdataioTransferFile cfg k remoteFd fileFd isRecv isAscii) Q s := by
  have hrun : Running cfg base (s.core φ) := hs ▸ hconn.running hi
  rw [vsfFtpdataioTransferFile, wp_bind, wp_sys]
  refine ⟨hrun.eventOk ⟨(congrArg Core.dataFd hs).symm, hconn.ne, hupload⟩, ?_⟩
  generalize (k.run (.transferFile remoteFd fileFd isRecv isAscii) s.world).1 = ret
  have h1 := core_run hk (c := .transferFile remoteFd fileFd isRecv isAscii) trivial s
  rw [wp_bind]
  refine Calm.wp (calm_checkPendingActions hk) (h1 ▸ hrun) fun _ s2 h2 _ => ?_
  match ret with
  | none => exact wp_halt.mpr ⟨trivial, fun heq => Halt.noConfusion heq⟩
  | some ret => exact wp_pure.mpr (hq ret s2 (h2.trans h1))

theorem transferDir_wp {fd : Fd} {dir option filter : Bytes} {isControl fullDetails : Bool}
    {Q : Int → State W → Prop} (hk : KeepsFs k φ) (hrun : Running cfg base (s.core φ))
    (hfd : isControl = false → (s.core φ).dataFd ≠ -1)
    (hlists : ListsFor cfg k base φ start s fd dir option filter fullDetails)
    (hq : ∀ ret s', s'.core φ = s.core φ → Q ret s') :
    wp (sessionRequirement cfg k base φ may start)
      (vsfFtpdataioTransferDir cfg k fd dir option filter isControl fullDetails) Q s := by
  rw [vsfFtpdataioTransferDir, wp_bind, wp_sys]
  refine ⟨hrun.eventOk ⟨hfd, hlists⟩, ?_⟩
  have h1 := core_run hk (c := .transferDir fd dir option filter isControl fullDetails) trivial s
  rw [wp_bind]
  exact Calm.wp (calm_checkPendingActions hk) (h1 ▸ hrun) fun _ s2 h2 _ =>
    wp_pure.mpr (hq _ s2 (h2.trans h1))

def Core.setPort (c : Core X) (port : Option SockAddr) : Core X := { c with portSockaddr := port }

theorem Ready.setPort {c : Core X} (h : Ready cfg base c) (port : Option SockAddr) :
    Ready cfg base (c.setPort port) :=
  { h with }

theorem portCleanup_wp {Q : Unit → State W → Prop}
    (hq : ∀ s', s'.core φ = (s.core φ).setPort none → Q () s') :
    wp (sessionRequirement cfg k base φ may start) (portCleanup : M W Unit) Q s :=
  wp_modifySess.mpr (hq _ rfl)

/-- With no stored address the state is settled, whatever listens. -/
theorem Ready.settled {c : Core X} (h : Ready cfg base c) (hport : c.portSockaddr = none) :
    Settled cfg base may c :=
  { h with
    notBoth := .inl hport
    portOk := fun _ haddr => absurd (hport.symm.trans haddr) (by simp)
    stored := fun _ haddr => absurd (hport.symm.trans haddr) (by simp) }

theorem portPasvCleanup_wp {Q : Unit → State W → Prop} (hk : KeepsFs k φ)
    (h : Ready cfg base (s.core φ))
    (hq : ∀ s', s'.core φ = ((s.core φ).setPort none).setListener cfg (-1) → Q () s') :
    wp (sessionRequirement cfg k base φ may start) (portPasvCleanup cfg k) Q s := by
  rw [portPasvCleanup, wp_bind]
  refine portCleanup_wp fun s1 h1 => ?_
  refine pasvCleanup_wp hk (h1 ▸ h.setPort none) fun s2 h2 => hq s2 ?_
  rw [h2, h1]

end Vsftpd.Session
