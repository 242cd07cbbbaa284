import Vsftpd.Session.Requests

/-!
# The endpoints of a session

What the session's requests for listeners and connections do to the core of a state
without a data connection, in both process models.
-/

namespace Vsftpd.Session

open Vsftpd.Lib

variable {W X α : Type} {cfg : Tunables} {k : Kernel W} {base : VsfSession} {φ : W → X}
  {may : SockAddr → Prop} {start s : State W}

/-! ## Between two uses of the data connection -/

/-- No data connection, no request under way, and the session that logged in.  `epsvAll`
is only ever set. -/
structure Ready (cfg : Tunables) (base : VsfSession) (c : Core X) : Prop
    extends Detached c, Idle c where
  remoteAddr : c.steady.remoteAddr = base.remoteAddr
  localAddr : c.steady.localAddr = base.localAddr
  isAnonymous : c.steady.isAnonymous = base.isAnonymous
  sslSlaveActive : c.steady.sslSlaveActive = base.sslSlaveActive
  epsvAll : base.epsvAll = true → c.steady.epsvAll = true
  parent : c.parent = base.asParent
  others : ∀ p, p ≠ listenerProc cfg → c.listenOf p = -1

theorem Ready.running {c : Core X} (h : Ready cfg base c) : Running cfg base c :=
  h.toIdle.running h.toDetached

def Core.setListener (cfg : Tunables) (c : Core X) (fd : Fd) : Core X :=
  c.setListenOf (listenerProc cfg) fd

theorem Core.listenOf_setListenOf (c : Core X) (p q : Proc) (fd : Fd) :
    (c.setListenOf p fd).listenOf q = if q = p then fd else c.listenOf q := by
  cases p <;> cases q <;> rfl

theorem Ready.setListenOf {c : Core X} {p : Proc} (h : Ready cfg base c) (hp : p = listenerProc cfg)
    (fd : Fd) : Ready cfg base (c.setListenOf p fd) := by
  have hothers : ∀ q, q ≠ listenerProc cfg → (c.setListenOf p fd).listenOf q = -1 := by
    intro q hq
    rw [Core.listenOf_setListenOf, if_neg (hp ▸ hq)]
    exact h.others q hq
  cases p <;> exact { h with others := hothers }

theorem Ready.setListener {c : Core X} (h : Ready cfg base c) (fd : Fd) :
    Ready cfg base (c.setListener cfg fd) :=
  h.setListenOf rfl fd

@[simp] theorem Core.listener_setListener (c : Core X) (fd : Fd) :
    (c.setListener cfg fd).listener cfg = fd := by
  unfold Core.listener Core.setListener
  cases listenerProc cfg <;> rfl

/-- The remote address of a process, up to its port. -/
theorem clone_remoteAddr {c : Core X} {p : Proc} {toParent toChild : List ChannelByte}
    {turn : Proc} (h : Ready cfg base c) (hs : s.core φ = c.talk toParent toChild turn) :
    vsfSysutilSockaddrClone (s.sess p).remoteAddr = vsfSysutilSockaddrClone base.remoteAddr := by
  cases p with
  | session =>
      have hsteady : s.session.steady.remoteAddr = c.steady.remoteAddr :=
        congrArg (fun c => c.steady.remoteAddr) hs
      exact congrArg vsfSysutilSockaddrClone (hsteady.trans h.remoteAddr)
  | parent =>
      have hparent : s.parent.asParent.remoteAddr = c.parent.remoteAddr :=
        congrArg (fun c => c.parent.remoteAddr) hs
      exact hparent.trans (congrArg VsfSession.remoteAddr h.parent)

/-- The parent has nothing to check. -/
theorem checks_parent (h : (s.core φ).turn = .parent) :
    ChecksFor cfg k φ noPending (s.core φ).turn := by
  rw [h]
  rfl

theorem checks_session (hk : KeepsFs k φ) (h : (s.core φ).turn = .session) :
    ChecksFor cfg k φ (checkPendingActions cfg k) (s.core φ).turn := by
  rw [h]
  exact calm_checkPendingActions hk

theorem turn_of_talk {c : Core X} {toParent toChild : List ChannelByte} {turn : Proc}
    (hs : s.core φ = c.talk toParent toChild turn) : (s.core φ).turn = turn :=
  congrArg Core.turn hs

theorem listenerProc_one (h : cfg.oneProcessModel = true) : listenerProc cfg = .session :=
  if_pos h

theorem listenerProc_two (h : ¬ cfg.oneProcessModel = true) : listenerProc cfg = .parent :=
  if_neg h

/-! ## Listeners -/

theorem requestHandler_pasvCleanup :
    requestHandler cfg k privSockPasvCleanup = cmdProcessPasvCleanup k := by
  rw [requestHandler, if_neg (fun h => absurd h.2 (by decide)), if_neg (by decide), if_pos rfl]

theorem twoProcessPasvCleanup_wp {Q : Unit → State W → Prop} (hk : KeepsFs k φ)
    (htwo : listenerProc cfg = .parent) (h : Ready cfg base (s.core φ))
    (hq : ∀ s', s'.core φ = (s.core φ).setListenOf .parent (-1) → Q () s') :
    wp (sessionRequirement cfg k base φ may start) (vsfTwoProcessPasvCleanup cfg k) Q s := by
  have hready := h.setListenOf htwo.symm (-1)
  refine request_calm hk h.toDetached h.toIdle rfl (by decide) fun s1 h1 => ?_
  rw [requestHandler_pasvCleanup, cmdProcessPasvCleanup, wp_bind]
  refine privopPasvCleanup_calm hk (checks_parent (turn_of_talk h1))
    (h1 ▸ h.toDetached.talk _ _ _) fun s2 h2 => ?_
  rw [h1, Core.setListenOf_talk] at h2
  refine sendResult_calm hk hready.toDetached h2 fun s3 h3 s4 h4 => ?_
  have h43 : s4.core φ =
      ((s.core φ).setListenOf .parent (-1)).talk [] [⟨privSockResultOk, none⟩] .session := by
    rw [h4, h3]
    rfl
  rw [wp_bind]
  refine replyResult_calm hk hready.toDetached h43 fun s5 h5 => ?_
  refine wp_ite.mpr ⟨fun hbad => absurd rfl hbad, fun _ => wp_pure.mpr (hq s5 ?_)⟩
  exact h5.trans hready.toIdle.talk

/-- `pasv_cleanup` -/
theorem pasvCleanup_wp {Q : Unit → State W → Prop} (hk : KeepsFs k φ)
    (h : Ready cfg base (s.core φ))
    (hq : ∀ s', s'.core φ = (s.core φ).setListener cfg (-1) → Q () s') :
    wp (sessionRequirement cfg k base φ may start) (pasvCleanup cfg k) Q s := by
  unfold Core.setListener at hq
  refine wp_ite.mpr ⟨fun hone => ?_, fun htwo => ?_⟩
  · rw [listenerProc_one hone] at hq
    exact privopPasvCleanup_calm hk (checks_session hk h.turn) h.toDetached hq
  · rw [listenerProc_two htwo] at hq
    exact twoProcessPasvCleanup_wp hk (listenerProc_two htwo) h hq

theorem requestHandler_pasvActive :
    requestHandler cfg k privSockPasvActive = cmdProcessPasvActive k := by
  rw [requestHandler, if_neg (fun h => absurd h.2 (by decide)), if_neg (by decide),
    if_neg (by decide), if_pos rfl]

theorem twoProcessPasvActive_wp {Q : Bool → State W → Prop} (hk : KeepsFs k φ)
    (h : Ready cfg base (s.core φ))
    (hq : ∀ a s', s'.core φ = s.core φ → (a = true ↔ (s.core φ).listenOf .parent ≠ -1) → Q a s') :
    wp (sessionRequirement cfg k base φ may start) (vsfTwoProcessPasvActive cfg k) Q s := by
  refine request_calm hk h.toDetached h.toIdle rfl (by decide) fun s1 h1 => ?_
  rw [requestHandler_pasvActive, cmdProcessPasvActive, wp_bind]
  refine privopPasvActive_wp (φ := φ) fun active hactive => ?_
  rw [h1] at hactive
  refine sendInt_calm hk h.toDetached h1 fun s2 h2 s3 h3 => ?_
  have h32 : s3.core φ = (s.core φ).talk []
      ((intBytes (if active then 1 else 0)).map fun b => ⟨b, none⟩) .session := by
    rw [h3, h2]
    rfl
  rw [wp_bind]
  refine replyInt_calm hk h.toDetached h32 fun s4 h4 => wp_pure.mpr ?_
  refine hq _ s4 (h4.trans h.toIdle.talk) ?_
  refine Iff.trans ?_ hactive
  cases active <;> decide

/-- The question whether there is a listener changes nothing. -/
theorem askPasvActive_wp {Q : Bool → State W → Prop} (hk : KeepsFs k φ)
    (h : Ready cfg base (s.core φ))
    (hq : ∀ a s', s'.core φ = s.core φ → (a = true ↔ (s.core φ).listener cfg ≠ -1) → Q a s') :
    wp (sessionRequirement cfg k base φ may start) (askPasvActive cfg k) Q s := by
  unfold Core.listener at hq
  refine wp_ite.mpr ⟨fun hone => ?_, fun htwo => ?_⟩
  · rw [listenerProc_one hone] at hq
    exact privopPasvActive_wp (φ := φ) fun a ha => hq a s rfl ha
  · rw [listenerProc_two htwo] at hq
    exact twoProcessPasvActive_wp hk h hq

theorem requestHandler_pasvListen :
    requestHandler cfg k privSockPasvListen = cmdProcessPasvListen cfg k := by
  rw [requestHandler, if_neg (fun h => absurd h.2 (by decide)), if_neg (by decide),
    if_neg (by decide), if_neg (by decide), if_pos rfl]

theorem twoProcessListen_wp {Q : UInt16 → State W → Prop} (hk : KeepsFs k φ)
    (htwo : listenerProc cfg = .parent) (h : Ready cfg base (s.core φ))
    (hoff : (s.core φ).listenOf .parent = -1)
    (hq : ∀ port fd s', s'.core φ = (s.core φ).setListenOf .parent fd → Q port s') :
    wp (sessionRequirement cfg k base φ may start) (vsfTwoProcessListen cfg k) Q s := by
  refine request_calm hk h.toDetached h.toIdle rfl (by decide) fun s1 h1 => ?_
  rw [requestHandler_pasvListen, cmdProcessPasvListen, wp_bind]
  have hoff1 : (s1.core φ).listenOf .parent = -1 := by
    rw [h1]
    exact hoff
  refine privopPasvListen_calm hk (checks_parent (turn_of_talk h1))
    (h1 ▸ h.toDetached.talk _ _ _) hoff1 fun port fd s2 _ h2 => ?_
  have hready := h.setListenOf htwo.symm fd
  rw [h1, Core.setListenOf_talk] at h2
  refine sendInt_calm hk hready.toDetached h2 fun s3 h3 s4 h4 => ?_
  have h43 : s4.core φ = ((s.core φ).setListenOf .parent fd).talk []
      ((intBytes port.toNat).map fun b => ⟨b, none⟩) .session := by
    rw [h4, h3]
    rfl
  rw [wp_bind]
  refine replyInt_calm hk hready.toDetached h43 fun s5 h5 => wp_pure.mpr ?_
  exact hq _ fd s5 (h5.trans hready.toIdle.talk)

theorem listenPasv_wp {Q : UInt16 → State W → Prop} (hk : KeepsFs k φ)
    (h : Ready cfg base (s.core φ)) (hoff : (s.core φ).listener cfg = -1)
    (hq : ∀ port fd s', s'.core φ = (s.core φ).setListener cfg fd → Q port s') :
    wp (sessionRequirement cfg k base φ may start) (listenPasv cfg k) Q s := by
  unfold Core.setListener at hq
  unfold Core.listener at hoff
  refine wp_ite.mpr ⟨fun hone => ?_, fun htwo => ?_⟩
  · rw [listenerProc_one hone] at hq hoff
    exact privopPasvListen_calm hk (checks_session hk h.turn) h.toDetached hoff
      fun port fd s' _ h' => hq port fd s' h'
  · rw [listenerProc_two htwo] at hq hoff
    exact twoProcessListen_wp hk (listenerProc_two htwo) h hoff hq

/-! ## Connections -/

theorem Offered.of_neg {fd : Fd} (h : Offered cfg base fd s) (hfd : fd < 0) :
    fd = -1 ∨ fd = -2 := by
  rcases h with hone | htwo | hnonneg
  · exact .inl hone
  · exact .inr htwo
  · exact absurd hnonneg.1 (Int.not_le.mpr hfd)

theorem Offered.dataConn {fd : Fd} (h : Offered cfg base fd s) (hfd : ¬ fd < 0) :
    DataConn cfg base (s.socks fd) := by
  rcases h with rfl | rfl | hnonneg
  · exact absurd (by decide) hfd
  · exact absurd (by decide) hfd
  · exact hnonneg.2

theorem requestHandler_pasvAccept :
    requestHandler cfg k privSockPasvAccept = cmdProcessPasvAccept cfg k := by
  rw [requestHandler, if_neg (fun h => absurd h.2 (by decide)), if_neg (by decide),
    if_neg (by decide), if_neg (by decide), if_neg (by decide), if_pos rfl]

/-- The answer that there is no connection. -/
theorem acceptRefused_wp {c : Core X} {fd : Fd} {Q : Fd → State W → Prop} (hk : KeepsFs k φ)
    (h : Ready cfg base c) (hs : s.core φ = c.talk [] [] .parent) (hfd : fd = -1 ∨ fd = -2)
    (hq : ∀ s', s'.core φ = c → Q fd s') :
    wp (sessionRequirement cfg k base φ may start)
      (do
        privSockSendResult k .parent privSockResultBad
        privSockSendInt k .parent fd)
      (fun _ s'' => ∀ s3 : State W, s3.core φ = { s''.core φ with turn := .session } →
        wp (sessionRequirement cfg k base φ may start)
          (do
            let res ← replyResult cfg k
            if res = privSockResultBad then replyInt cfg k
            else if res ≠ privSockResultOk then die "could not accept on listening socket"
            else privSockRecvFd k .session) Q s3) s := by
  rw [wp_bind]
  refine sendResult_calm hk h.toDetached hs fun s1 h1 => ?_
  refine sendInt_calm hk h.toDetached h1 fun s2 h2 s3 h3 => ?_
  have h32 : s3.core φ = c.talk []
      (⟨privSockResultBad, none⟩ :: (intBytes fd).map fun b => ⟨b, none⟩) .session := by
    rw [h3, h2]
    rfl
  rw [wp_bind]
  refine replyResult_calm hk h.toDetached h32 fun s4 h4 => ?_
  refine wp_ite.mpr ⟨fun _ => ?_, fun hbad => absurd rfl hbad⟩
  refine replyInt_calm hk h.toDetached h4 fun s5 h5 => ?_
  have hback := hq s5 (h5.trans h.toIdle.talk)
  refine Eq.mp (congrArg (fun n => Q n s5) ?_) hback
  rcases hfd with rfl | rfl
  · decide
  · decide

/-- The descriptor of a connection goes over to the session. -/
theorem connectionPassed_wp {c : Core X} {fd : Fd} {failed : M W Fd} {failure : String}
    {Q : Fd → State W → Prop} (hk : KeepsFs k φ) (h : Ready cfg base c)
    (hs : s.core φ = c.talk [] [] .parent) (hconn : DataConn cfg base (s.socks fd))
    (hq : ∀ fd' s', s'.core φ = c → 0 ≤ fd' → DataConn cfg base (s'.socks fd') → Q fd' s') :
    wp (sessionRequirement cfg k base φ may start)
      (do
        privSockSendResult k .parent privSockResultOk
        privSockSendFd k .parent fd
        vsfSysutilClose k noPending fd)
      (fun _ s'' => ∀ s3 : State W, s3.core φ = { s''.core φ with turn := .session } →
        wp (sessionRequirement cfg k base φ may start)
          (do
            let res ← replyResult cfg k
            if res = privSockResultBad then failed
            else if res ≠ privSockResultOk then die failure
            else privSockRecvFd k .session) Q s3) s := by
  rw [wp_bind, privSockSendResult, privSockWrite, wp_bind]
  refine sharedSys_wp hk trivial (hs ▸ h.toDetached.talk _ _ _) fun ok s0 h0 hsocks => ?_
  refine wp_ite.mpr ⟨fun _ => wp_modify.mpr ?_, fun _ => ?_⟩
  case refine_2 => exact wp_die.mpr (answerable_die _ _ _ _ (by decide))
  have h1 : (s0.setIncoming .session (s0.incoming .session ++ [⟨privSockResultOk, none⟩])).core φ =
      c.talk [] [⟨privSockResultOk, none⟩] .parent := by
    rw [core_setIncoming, incoming_core (φ := φ), h0, hs]
    rfl
  refine sendFd_calm hk h.toDetached h1 fun s2 h2 s3 h3 => ?_
  have h32 : s3.core φ = c.talk []
      [⟨privSockResultOk, none⟩, ⟨0, some ⟨fd.toNat, s0.socks fd⟩⟩] .session := by
    rw [h3, h2]
    rfl
  rw [wp_bind]
  refine replyResult_calm hk h.toDetached h32 fun s4 h4 => ?_
  refine wp_ite.mpr ⟨fun hok => absurd hok (by decide), fun _ => ?_⟩
  refine wp_ite.mpr ⟨fun hbad => absurd rfl hbad, fun _ => ?_⟩
  refine privSockRecvFd_calm hk (h4 ▸ h.toDetached.talk _ _ _) (fun hparent => ?_)
    (congrArg Core.toChild h4) fun fd' s5 hfd' h5 hsock => ?_
  · exact absurd ((turn_of_talk h4).symm.trans hparent) (by decide)
  rw [h4] at h5
  refine hq fd' s5 (h5.trans h.toIdle.talk) hfd' ?_
  rw [hsock, hsocks]
  exact hconn

theorem twoProcessGetPasvFd_wp {Q : Fd → State W → Prop} (hk : KeepsFs k φ)
    (h : Ready cfg base (s.core φ)) (hon : (s.core φ).listenOf .parent ≠ -1)
    (hq : ∀ fd s', s'.core φ = s.core φ → Offered cfg base fd s' → Q fd s') :
    wp (sessionRequirement cfg k base φ may start) (vsfTwoProcessGetPasvFd cfg k) Q s := by
  refine request_calm hk h.toDetached h.toIdle rfl (by decide) fun s1 h1 => ?_
  rw [requestHandler_pasvAccept, cmdProcessPasvAccept, wp_bind]
  have hon1 : (s1.core φ).listenOf .parent ≠ -1 := by
    rw [h1]
    exact hon
  refine privopAcceptPasv_calm hk (checks_parent (turn_of_talk h1))
    (h1 ▸ h.toDetached.talk _ _ _) hon1 (clone_remoteAddr h h1) fun fd s2 h2 hoffered => ?_
  rw [h1] at h2
  refine wp_ite.mpr ⟨fun hneg => ?_, fun hnonneg => ?_⟩
  · refine acceptRefused_wp hk h h2 (hoffered.of_neg hneg) fun s3 h3 => hq fd s3 h3 ?_
    cases hoffered.of_neg hneg with
    | inl hfd => exact .inl hfd
    | inr hfd => exact .inr (.inl hfd)
  · exact connectionPassed_wp hk h h2 (hoffered.dataConn hnonneg)
      fun fd' s3 h3 hfd' hconn => hq fd' s3 h3 (.inr (.inr ⟨hfd', hconn⟩))

/-- An incoming connection that may serve. -/
theorem acceptPasv_wp {Q : Fd → State W → Prop} (hk : KeepsFs k φ) (h : Ready cfg base (s.core φ))
    (hon : (s.core φ).listener cfg ≠ -1)
    (hq : ∀ fd s', s'.core φ = s.core φ → Offered cfg base fd s' → Q fd s') :
    wp (sessionRequirement cfg k base φ may start) (acceptPasv cfg k) Q s := by
  unfold Core.listener at hon
  refine wp_ite.mpr ⟨fun hone => ?_, fun htwo => ?_⟩
  · rw [listenerProc_one hone] at hon
    exact privopAcceptPasv_calm hk (checks_session hk h.turn) h.toDetached hon
      (clone_remoteAddr h h.toIdle.talk.symm) hq
  · rw [listenerProc_two htwo] at hon
    exact twoProcessGetPasvFd_wp hk h hon hq

/-- What holds between commands: at most one endpoint, and a stored address that may
be connected to. -/
structure Settled (cfg : Tunables) (base : VsfSession) (may : SockAddr → Prop) (c : Core X) :
    Prop extends Ready cfg base c where
  notBoth : c.portSockaddr = none ∨ c.listener cfg = -1
  portOk : ∀ addr, c.portSockaddr = some addr → cfg.portPromiscuous = false →
    RemoteTarget base addr
  stored : ∀ addr, c.portSockaddr = some addr → may addr

/-- With a stored address nothing listens. -/
theorem Settled.listenOf {c : Core X} (h : Settled cfg base may c) (hport : c.portSockaddr ≠ none)
    (p : Proc) : c.listenOf p = -1 := by
  by_cases hp : p = listenerProc cfg
  · rw [hp]
    exact h.notBoth.resolve_left hport
  · exact h.others p hp

theorem Settled.portAsked {c : Core X} (h : Settled cfg base may c) {addr : SockAddr}
    (hport : c.portSockaddr = some addr) :
    PortAsked cfg may (vsfSysutilSockaddrGetPort addr) := by
  intro hreserved
  refine ⟨?_, addr, h.stored addr hport, hreserved⟩
  by_contra hprom
  have htarget := h.portOk addr hport (Bool.eq_false_iff.mpr hprom)
  have hfree := not_reserved_iff.mpr htarget.2
  exact absurd (hreserved.symm.trans hfree) (by decide)

theorem oneProcessGetPrivDataSock_wp {Q : Fd → State W → Prop} (hk : KeepsFs k φ)
    (h : Settled cfg base may (s.core φ))
    (hq : ∀ fd s', s'.core φ = s.core φ → Offered cfg base fd s' → Q fd s') :
    wp (sessionRequirement cfg k base φ may start) (vsfOneProcessGetPrivDataSock cfg k) Q s := by
  rw [vsfOneProcessGetPrivDataSock, withPortSockaddr, wp_bind, wp_getSess]
  cases hport : (s.sess .session).portSockaddr with
  | none => exact wp_halt.mpr ⟨trivial, fun heq => Halt.noConfusion heq⟩
  | some addr =>
      have hstored : (s.core φ).portSockaddr = some addr := hport
      have hoff := h.listenOf (hstored ▸ Option.some_ne_none addr) .session
      refine privopGetFtpPortSock_calm hk (checks_session hk h.turn) h.toDetached hoff
        (h.portAsked hstored) (fun _ s1 h1 => ?_) fun fd s1 h1 _ => hq fd s1 h1
      rw [connectAddr, if_pos rfl, hport]
      exact wp_pure.mpr ⟨h1, h.portOk addr hport⟩

theorem requestHandler_getDataSock :
    requestHandler cfg k privSockGetDataSock = cmdProcessGetDataSock cfg k := by
  rw [requestHandler, if_neg (fun h => absurd h.2 (by decide)), if_pos rfl]

/-- The parent connects to the remote address, at the port it was sent. -/
theorem parentConnectAddr_wp {sess : VsfSession} {remotePort : UInt16}
    (hsess : vsfSysutilSockaddrClone sess.remoteAddr = vsfSysutilSockaddrClone base.remoteAddr)
    (hport : vsfSysutilIsPortReserved remotePort = false) :
    wp (sessionRequirement cfg k base φ may start) (connectAddr .parent sess remotePort false)
      (fun addr s' => s'.core φ = s.core φ ∧
        (cfg.portPromiscuous = false → RemoteTarget base addr)) s := by
  rw [connectAddr, if_neg Bool.false_ne_true, wp_bind, wp_modifySess, wp_pure]
  refine ⟨?_, fun _ => ⟨?_, ?_⟩⟩
  · have hparent : ({ s.parent with
        remoteAddr := vsfSysutilSockaddrSetPort s.parent.remoteAddr remotePort } :
        VsfSession).asParent = s.parent.asParent := by
      unfold VsfSession.asParent
      rw [clone_setPort]
    unfold State.core
    exact congrArg (fun p => { s.core φ with parent := p }) hparent
  · rw [addrEqual_setPort_right, ← addrEqual_clone_right, hsess, addrEqual_clone_right,
      addrEqual_self]
  · rw [getPort_setPort]
    exact not_reserved_iff.mp hport

/-- The port that the parent reads is the port that was sent. -/
theorem receivedPort {port : UInt16} {n : Int} (h : n = port.toNat) :
    UInt16.ofNat (n % 2 ^ 16).toNat = port := by
  have hlt : port.toNat < 2 ^ 16 := port.toNat_lt
  have hmod : (n % 2 ^ 16).toNat = port.toNat := by omega
  rw [hmod, UInt16.ofNat_toNat]

/-- The parent's answer without a connection. -/
theorem connectRefused_wp {c : Core X} {failure : String} {Q : Fd → State W → Prop}
    (hk : KeepsFs k φ) (h : Ready cfg base c) (hs : s.core φ = c.talk [] [] .parent)
    (hq : ∀ s', s'.core φ = c → Q (-1) s') :
    wp (sessionRequirement cfg k base φ may start) (privSockSendResult k .parent privSockResultBad)
      (fun _ s'' => ∀ s3 : State W, s3.core φ = { s''.core φ with turn := .session } →
        wp (sessionRequirement cfg k base φ may start)
          (do
            let res ← replyResult cfg k
            if res = privSockResultBad then pure (-1)
            else if res ≠ privSockResultOk then die failure
            else privSockRecvFd k .session) Q s3) s := by
  refine sendResult_calm hk h.toDetached hs fun s1 h1 s2 h2 => ?_
  have h21 : s2.core φ = c.talk [] [⟨privSockResultBad, none⟩] .session := by
    rw [h2, h1]
    rfl
  rw [wp_bind]
  refine replyResult_calm hk h.toDetached h21 fun s3 h3 => ?_
  refine wp_ite.mpr ⟨fun _ => wp_pure.mpr ?_, fun hbad => absurd rfl hbad⟩
  exact hq s3 (h3.trans h.toIdle.talk)

theorem twoProcessGetPrivDataSock_wp {Q : Fd → State W → Prop} (hk : KeepsFs k φ)
    (h : Settled cfg base may (s.core φ)) (hprom : cfg.portPromiscuous = false)
    (hq : ∀ fd s', s'.core φ = s.core φ → Offered cfg base fd s' → Q fd s') :
    wp (sessionRequirement cfg k base φ may start) (vsfTwoProcessGetPrivDataSock cfg k) Q s := by
  have hd := h.toDetached
  rw [vsfTwoProcessGetPrivDataSock, withPortSockaddr, wp_bind, wp_getSess]
  cases hport : (s.sess .session).portSockaddr with
  | none => exact wp_halt.mpr ⟨trivial, fun heq => Halt.noConfusion heq⟩
  | some addr =>
      have hstored : (s.core φ).portSockaddr = some addr := hport
      have hoff := h.listenOf (hstored ▸ Option.some_ne_none addr) .parent
      have hfree : vsfSysutilIsPortReserved (vsfSysutilSockaddrGetPort addr) = false :=
        not_reserved_iff.mpr (h.portOk addr hstored hprom).2
      show wp _ (_ >>= _) _ _
      rw [wp_bind]
      refine requestCmd_calm hk hd h.toIdle.talk.symm fun s1 h1 => ?_
      rw [wp_bind]
      refine privSockWrite_calm hk (h1 ▸ hd.talk _ _ _) (by decide) fun s2 h2 => ?_
      have h21 : s2.core φ = (s.core φ).talk (⟨privSockGetDataSock, none⟩ ::
          (intBytes (vsfSysutilSockaddrGetPort addr).toNat).map fun b => ⟨b, none⟩)
          [] .session := by
        rw [h2, h1]
        rfl
      rw [wp_bind]
      refine Calm.wp (calm_checkPendingActions hk) (h21 ▸ hd.runningTalk _ _) fun _ s3 h3 _ => ?_
      rw [wp_bind]
      refine parentTurn_calm hk hd (.getDataSock _ hfree hprom) (h3.trans h21) fun s4 h4 => ?_
      rw [requestHandler_getDataSock, cmdProcessGetDataSock, wp_bind]
      refine privSockGetInt_calm (congrArg Core.toParent h4) fun s5 h5 => ?_
      rw [h4] at h5
      have hread := @receivedPort (vsfSysutilSockaddrGetPort addr) _
        (bytesInt_intBytes (by omega) (by have := (vsfSysutilSockaddrGetPort addr).toNat_lt; omega)
          rfl)
      dsimp only
      rw [hread, wp_bind]
      refine privopGetFtpPortSock_calm hk (checks_parent (turn_of_talk h5)) (h5 ▸ hd.talk _ _ _)
        (h5 ▸ hoff) (h.portAsked hstored) (fun _ s6 h6 => ?_) fun fd s6 h6 hne hoffered => ?_
      · rw [← h6]
        exact parentConnectAddr_wp (clone_remoteAddr h.toReady h5) hfree
      · rw [h5] at h6
        refine wp_ite.mpr ⟨fun _ => ?_, fun hfd => ?_⟩
        · exact connectRefused_wp hk h.toReady h6 fun s7 h7 => hq _ s7 h7 (.inl rfl)
        · have hconn : DataConn cfg base (s6.socks fd) := by
            rcases hoffered with hone | htwo | hnonneg
            · exact absurd hone hfd
            · exact absurd htwo hne
            · exact hnonneg.2
          exact connectionPassed_wp hk h.toReady h6 hconn fun fd' s7 h7 hfd' hconn' =>
            hq fd' s7 h7 (.inr (.inr ⟨hfd', hconn'⟩))

/-- An outgoing connection that may serve. -/
theorem getPrivDataSock_wp {Q : Fd → State W → Prop} (hk : KeepsFs k φ)
    (h : Settled cfg base may (s.core φ))
    (hq : ∀ fd s', s'.core φ = s.core φ → Offered cfg base fd s' → Q fd s') :
    wp (sessionRequirement cfg k base φ may start) (getPrivDataSock cfg k) Q s := by
  refine wp_ite.mpr ⟨fun _ => oneProcessGetPrivDataSock_wp hk h hq, fun htwo => ?_⟩
  exact twoProcessGetPrivDataSock_wp hk h (Bool.eq_false_iff.mpr fun hp => htwo (.inr hp)) hq

/-! ## The owner of an upload -/

theorem requestHandler_chown (hchown : cfg.chownUploads = true) :
    requestHandler cfg k privSockChown = cmdProcessChown k := by
  rw [requestHandler, if_pos ⟨hchown, rfl⟩]

theorem twoProcessChownUpload_wp {fd : Fd} {Q : Unit → State W → Prop} (hk : KeepsFs k φ)
    (h : Ready cfg base (s.core φ))
    (hgives : GivesAway cfg k base φ start)
    (hq : ∀ s', s'.core φ = s.core φ → Q () s') :
    wp (sessionRequirement cfg k base φ may start) (vsfTwoProcessChownUpload cfg k fd) Q s := by
  have hd := h.toDetached
  have hgate := hgives.chownGate
  rw [vsfTwoProcessChownUpload, wp_bind]
  refine requestCmd_calm hk hd h.toIdle.talk.symm fun s1 h1 => ?_
  rw [wp_bind]
  refine privSockSendFd_calm hk (h1 ▸ hd.talk _ _ _) (fun _ => .inl hgives) fun s2 h2 => ?_
  rw [h1] at h2
  rw [wp_bind]
  refine parentTurn_calm hk hd (.chown _ hgate) h2 fun s3 h3 => ?_
  rw [requestHandler_chown hgate.2.1, cmdProcessChown, wp_bind]
  refine privSockRecvFd_calm hk (h3 ▸ hd.talk _ _ _) (fun _ => hgives) (congrArg Core.toParent h3)
    fun theFd s4 _ h4 _ => ?_
  rw [h3] at h4
  rw [wp_bind]
  refine doFileChown_calm hk (h4 ▸ hd.talk _ _ _) hgives fun s5 h5 => ?_
  have h54 := h5.trans h4
  rw [wp_bind]
  refine close_calm hk (checks_parent (turn_of_talk h54)) (h54 ▸ hd.talk _ _ _) fun s6 h6 => ?_
  refine sendResult_calm hk hd (h6.trans h54) fun s7 h7 s8 h8 => ?_
  have h87 : s8.core φ = (s.core φ).talk [] [⟨privSockResultOk, none⟩] .session := by
    rw [h8, h7]
    rfl
  rw [wp_bind]
  refine replyResult_calm hk hd h87 fun s9 h9 => ?_
  refine wp_ite.mpr ⟨fun hbad => absurd rfl hbad, fun _ => wp_pure.mpr (hq s9 ?_)⟩
  exact h9.trans h.toIdle.talk

theorem chownUpload_wp {fd : Fd} {Q : Unit → State W → Prop} (hk : KeepsFs k φ)
    (h : Ready cfg base (s.core φ))
    (hgives : GivesAway cfg k base φ start)
    (hq : ∀ s', s'.core φ = s.core φ → Q () s') :
    wp (sessionRequirement cfg k base φ may start) (chownUpload cfg k fd) Q s :=
  wp_ite.mpr ⟨fun _ => doFileChown_calm hk h.toDetached hgives hq,
    fun _ => twoProcessChownUpload_wp hk h hgives hq⟩

end Vsftpd.Session
