import Vsftpd.Session.FileCommands

/-!
# PORT, EPRT, PASV and EPSV

Each gives up both endpoints before it sets up one, and an address is stored only
when it passed its check.
-/

namespace Vsftpd.Session

open Vsftpd.Lib

variable {W X α : Type} {cfg : Tunables} {k : Kernel W} {base : VsfSession} {φ : W → X}
  {may : SockAddr → Prop} {start s : State W}

/-! ## A stored address -/

/-- The core without an endpoint. -/
def Core.cleared (cfg : Tunables) (c : Core X) : Core X := (c.setListener cfg (-1)).setPort none

theorem Core.listenOf_setPort (c : Core X) (port : Option SockAddr) (p : Proc) :
    (c.setPort port).listenOf p = c.listenOf p := by
  cases p <;> rfl

theorem Core.setPort_setListener (c : Core X) (port : Option SockAddr) (fd : Fd) :
    (c.setPort port).setListener cfg fd = (c.setListener cfg fd).setPort port := by
  unfold Core.setListener
  cases listenerProc cfg <;> rfl

theorem Core.listener_cleared (c : Core X) : (c.cleared cfg).listener cfg = -1 := by
  calc (c.cleared cfg).listener cfg
      = (c.setListener cfg (-1)).listener cfg := Core.listenOf_setPort _ _ _
    _ = -1 := Core.listener_setListener c (-1)

theorem Ready.cleared {c : Core X} (h : Ready cfg base c) : Ready cfg base (c.cleared cfg) :=
  (h.setListener (-1)).setPort none

/-- PORT and EPRT store the address. -/
def PassesPortCheck (cfg : Tunables) (remote addr : SockAddr) : Prop :=
  ¬ ((!cfg.portPromiscuous) = true ∧
    ((!vsfSysutilSockaddrAddrEqual remote addr) = true ∨
      vsfSysutilIsPortReserved (vsfSysutilSockaddrGetPort addr) = true))

instance (cfg : Tunables) (remote addr : SockAddr) : Decidable (PassesPortCheck cfg remote addr) :=
  inferInstanceAs (Decidable (¬ _))

theorem RemoteTarget.of_check {addr remote : SockAddr} (hremote : remote = base.remoteAddr)
    (hprom : cfg.portPromiscuous = false) (hpass : PassesPortCheck cfg remote addr) :
    RemoteTarget base addr := by
  rw [PassesPortCheck, hprom, hremote] at hpass
  simp only [Bool.not_false, true_and, not_or, Bool.not_eq_true', Bool.not_eq_true] at hpass
  have hequal : vsfSysutilSockaddrAddrEqual base.remoteAddr addr = true := by
    simpa using hpass.1
  exact ⟨hequal, not_reserved_iff.mp hpass.2⟩

/-- An address that fails the check is forgotten, one that passes stays. -/
theorem storePortSockaddr_settled {c : Core X} (hk : KeepsFs k φ) (h : Ready cfg base c)
    (hoff : c.listener cfg = -1) (hs : s.core φ = c.setPort none) (addr : SockAddr)
    (hmay : PassesPortCheck cfg base.remoteAddr addr → may addr) (illegal success : String) :
    wp (sessionRequirement cfg k base φ may start) (storePortSockaddr cfg k addr illegal success)
      (fun _ s' => Settled cfg base may (s'.core φ)) s := by
  rw [storePortSockaddr, wp_bind, updateSession, wp_modifySess]
  generalize hs1 : State.setSess _ _ _ = s1
  have h1 : s1.core φ = c.setPort (some addr) := by
    calc s1.core φ = (s.core φ).setPort (some addr) := by rw [← hs1]; rfl
      _ = c.setPort (some addr) := by rw [hs]; rfl
  have hready : Ready cfg base (s1.core φ) := h1 ▸ h.setPort (some addr)
  rw [wp_bind, wp_getSess]
  refine wp_ite.mpr ⟨fun _ => ?_, fun hpass => ?_⟩
  · rw [wp_bind]
    refine Calm.wp (calm_vsfCmdioWrite hk _ _) hready.running fun _ s2 h2 _ => ?_
    apply portCleanup_wp (φ := φ)
    intro s3 h3
    rw [h3]
    exact ((h2 ▸ hready).setPort none).settled rfl
  · refine Calm.wp (calm_vsfCmdioWrite hk _ _) hready.running fun _ s2 h2 _ => ?_
    rw [h2, h1]
    have hremote : s1.session.remoteAddr = base.remoteAddr := hready.remoteAddr
    exact
      { h.setPort (some addr) with
        notBoth := .inr ((Core.listenOf_setPort c _ _).trans hoff)
        portOk := by
          intro addr' haddr hprom
          obtain rfl : addr = addr' := Option.some.inj haddr
          exact RemoteTarget.of_check hremote hprom hpass
        stored := by
          intro addr' haddr
          obtain rfl : addr = addr' := Option.some.inj haddr
          rw [← hremote] at hmay
          exact hmay hpass }

theorem Ready.cleared_settled {c : Core X} (h : Ready cfg base c) :
    Settled cfg base may (c.cleared cfg) :=
  h.cleared.settled rfl

/-- `pasv_cleanup` and `port_cleanup`. -/
theorem pasvPortCleanup_wp {f : Unit → M W α} {Q : α → State W → Prop} (hk : KeepsFs k φ)
    (h : Ready cfg base (s.core φ))
    (hq : ∀ s', s'.core φ = (s.core φ).cleared cfg →
      wp (sessionRequirement cfg k base φ may start) (f ()) Q s') :
    wp (sessionRequirement cfg k base φ may start)
      (do
        pasvCleanup cfg k
        let u ← portCleanup
        f u) Q s := by
  rw [wp_bind]
  refine pasvCleanup_wp hk h fun s1 h1 => ?_
  rw [wp_bind]
  refine portCleanup_wp fun s2 h2 => hq s2 ?_
  rw [h2, h1]
  rfl

/-- The address that the argument of PORT names. -/
def portTarget (sess : VsfSession) : Option SockAddr :=
  (portArgument (vsfSysutilParseUcharStringSep sess.ftpArgStr comma 6)).map fun endpoint =>
    vsfSysutilSockaddrSetPort
      (vsfSysutilSockaddrSetIpv4addr (vsfSysutilSockaddrClone sess.localAddr) endpoint.1) endpoint.2

/-- What the endpoint commands read of the session is what it was. -/
theorem argument_of_cleared {s' : State W} (h : s'.core φ = (s.core φ).cleared cfg) :
    s'.session.ftpArgStr = s.session.ftpArgStr ∧ s'.session.localAddr = s.session.localAddr := by
  have hsteady : s'.session.steady = ((s.core φ).cleared cfg).steady := congrArg Core.steady h
  have hkept : ((s.core φ).cleared cfg).steady = s.session.steady := by
    unfold Core.cleared Core.setListener
    cases listenerProc cfg <;> rfl
  rw [hkept] at hsteady
  have harg : s'.session.steady.ftpArgStr = s.session.steady.ftpArgStr :=
    congrArg VsfSession.ftpArgStr hsteady
  have hlocal : s'.session.steady.localAddr = s.session.steady.localAddr :=
    congrArg VsfSession.localAddr hsteady
  exact ⟨harg, hlocal⟩

theorem serves_handlePort (hk : KeepsFs k φ) (hs : Settled cfg base may (start.core φ))
    (hmay : ∀ addr, portTarget start.session = some addr →
      PassesPortCheck cfg base.remoteAddr addr → may addr) :
    Serves cfg k base φ may start (handlePort cfg k) := by
  rw [Serves, handlePort]
  refine pasvPortCleanup_wp hk hs.toReady fun s1 h1 => ?_
  have hs1 : Settled cfg base may (s1.core φ) := h1 ▸ hs.toReady.cleared_settled
  obtain ⟨harg, hlocal⟩ := argument_of_cleared h1
  have htarget : portTarget (s1.sess .session) = portTarget start.session := by
    show portTarget s1.session = _
    rw [portTarget, harg, hlocal, portTarget]
  rw [wp_bind, wp_getSess]
  rw [← htarget, portTarget] at hmay
  cases hparse : portArgument _ with
  | none => exact (replying_write hk _ _).settled hs1 fun _ _ hs' => hs'
  | some endpoint =>
      rw [hparse] at hmay
      refine storePortSockaddr_settled hk hs1.toReady ?_ (h1.trans ?_) _ (hmay _ rfl) _ _
      · rw [h1]
        exact Core.listener_cleared _
      · rw [h1]
        rfl

/-! ### EPRT -/

theorem parseEprtAddr_ipv6 {proto : Int} {text : Bytes} {a : In6Addr}
    (h : parseEprtAddr proto text = .ok (some (.ipv6 a))) : proto = 2 := by
  by_contra hproto
  rw [parseEprtAddr, if_neg hproto] at h
  cases hv4 : vsfSysutilParseIpv4 text with
  | none =>
      rw [hv4] at h
      cases h
  | some v4 =>
      rw [hv4] at h
      cases h

/-- An IPv6 address is only taken on an IPv6 connection. -/
theorem isIpv6_of_parseEprt {isIpv6 : Bool} {arg : Bytes} {a : In6Addr} {port : UInt16}
    (h : parseEprt isIpv6 arg = .ok (.endpoint (.ipv6 a) port)) : isIpv6 = true := by
  unfold parseEprt at h
  dsimp only at h
  generalize strAtoi (strSplitChar (strSplitChar arg bar).2 bar).1 = proto at h
  by_cases hstart : ¬ strIsempty (strSplitChar arg bar).1 = true
  · rw [if_pos hstart] at h
    cases h
  rw [if_neg hstart] at h
  by_cases hproto : proto < 1 ∨ proto > 2 ∨ (!isIpv6) = true ∧ proto = 2
  · rw [if_pos hproto] at h
    cases h
  rw [if_neg hproto] at h
  have hipv6 : proto = 2 → isIpv6 = true := fun htwo => by
    by_contra hfalse
    exact hproto (.inr (.inr ⟨by simpa using hfalse, htwo⟩))
  split at h
  · cases h
  · cases h
  · rename_i addr haddr
    split_ifs at h
    · cases h
    · cases h
    · obtain ⟨rfl, -⟩ := EprtArg.endpoint.inj (Except.ok.inj h)
      exact hipv6 (parseEprtAddr_ipv6 haddr)

theorem eprtSockaddr_ne_none {localAddr : SockAddr} {arg : Bytes} {addr : EprtAddr}
    {port : UInt16}
    (h : parseEprt (vsfSysutilSockaddrIsIpv6 localAddr) arg = .ok (.endpoint addr port)) :
    eprtSockaddr localAddr addr port ≠ none := by
  cases addr with
  | ipv4 a => exact Option.some_ne_none _
  | ipv6 a =>
      have hipv6 := isIpv6_of_parseEprt h
      cases localAddr with
      | inet b q => exact absurd hipv6 Bool.false_ne_true
      | inet6 b q scope => exact Option.some_ne_none _

/-- The address that the argument of EPRT names. -/
def eprtTarget (sess : VsfSession) : Option SockAddr :=
  match parseEprt (vsfSysutilSockaddrIsIpv6 sess.localAddr) sess.ftpArgStr with
  | .ok (.endpoint addr port) => eprtSockaddr sess.localAddr addr port
  | _ => none

theorem serves_handleEprt (hk : KeepsFs k φ) (hs : Settled cfg base may (start.core φ))
    (hmay : ∀ addr, eprtTarget start.session = some addr →
      PassesPortCheck cfg base.remoteAddr addr → may addr) :
    Serves cfg k base φ may start (handleEprt cfg k) := by
  rw [Serves, handleEprt, wp_bind]
  refine portCleanup_wp fun s1 h1 => ?_
  rw [wp_bind]
  have hready1 : Ready cfg base (s1.core φ) := h1 ▸ hs.toReady.setPort none
  refine pasvCleanup_wp hk hready1 fun s2 h2 => ?_
  have h21 : s2.core φ = (start.core φ).cleared cfg := by
    rw [h2, h1]
    exact Core.setPort_setListener _ _ _
  have hs2 : Settled cfg base may (s2.core φ) := h21 ▸ hs.toReady.cleared_settled
  obtain ⟨harg, hlocal⟩ := argument_of_cleared h21
  have htarget : eprtTarget (s2.sess .session) = eprtTarget start.session := by
    show eprtTarget s2.session = _
    rw [eprtTarget, harg, hlocal, eprtTarget]
  rw [wp_bind, wp_getSess]
  rw [← htarget, eprtTarget] at hmay
  cases hparse : parseEprt (vsfSysutilSockaddrIsIpv6 (s2.sess .session).localAddr)
      (s2.sess .session).ftpArgStr with
  | error u => exact wp_halt.mpr ⟨trivial, fun heq => Halt.noConfusion heq⟩
  | ok r =>
      cases r with
      | bad => exact (replying_write hk _ _).settled hs2 fun _ _ hs' => hs'
      | badProtocol => exact (replying_write hk _ _).settled hs2 fun _ _ hs' => hs'
      | endpoint addr port =>
          have hsome := eprtSockaddr_ne_none hparse
          rw [hparse] at hmay
          dsimp only at hmay ⊢
          cases hp : eprtSockaddr (s2.sess .session).localAddr addr port with
          | none => exact absurd hp hsome
          | some p =>
              refine storePortSockaddr_settled hk hs2.toReady ?_ ?_ p (hmay p hp) _ _
              · rw [h21]
                exact Core.listener_cleared _
              · rw [h21]
                rfl

/-! ### PASV and EPSV -/

theorem enterPasv_settled (hk : KeepsFs k φ) (hs : Settled cfg base may (s.core φ))
    (isEpsv : Bool) :
    wp (sessionRequirement cfg k base φ may start) (enterPasv cfg k isEpsv)
      (fun _ s' => Settled cfg base may (s'.core φ)) s := by
  rw [enterPasv]
  refine pasvPortCleanup_wp hk hs.toReady fun s1 h1 => ?_
  have hready1 : Ready cfg base (s1.core φ) := h1 ▸ hs.toReady.cleared
  have hoff1 : (s1.core φ).listener cfg = -1 := by
    rw [h1]
    exact Core.listener_cleared _
  rw [wp_bind]
  refine listenPasv_wp hk hready1 hoff1 fun port fd s2 h2 => ?_
  have hport2 : (s2.core φ).portSockaddr = none := by
    rw [h2, h1]
    unfold Core.setListener
    cases listenerProc cfg <;> rfl
  have hs2 : Settled cfg base may (s2.core φ) := (h2 ▸ hready1.setListener fd).settled hport2
  rw [wp_bind, wp_getSess]
  refine wp_ite.mpr ⟨fun _ => ?_, fun _ => ?_⟩
  · exact (replying_writeStr hk _ _).settled hs2 fun _ _ hs' => hs'
  · cases cfg.pasvAddress with
    | none => exact (replying_writeStr hk _ _).settled hs2 fun _ _ hs' => hs'
    | some text =>
        dsimp only
        cases k.inetAton text with
        | none => exact wp_die.mpr (answerable_die _ _ _ _ (by decide))
        | some a => exact (replying_writeStr hk _ _).settled hs2 fun _ _ hs' => hs'

/-- EPSV ALL is remembered. -/
theorem Settled.setEpsvAll (hs : Settled cfg base may (s.core φ)) :
    Settled cfg base may
      ((s.setSess .session { s.session with epsvAll := true }).core φ) :=
  { hs with epsvAll := fun _ => rfl }

theorem serves_handlePasv (hk : KeepsFs k φ) (hs : Settled cfg base may (start.core φ))
    (isEpsv : Bool) : Serves cfg k base φ may start (handlePasv cfg k isEpsv) := by
  rw [Serves, handlePasv, wp_bind, wp_getSess]
  refine wp_ite.mpr ⟨fun _ => ?_, fun _ => enterPasv_settled hk hs isEpsv⟩
  dsimp only
  rw [wp_bind]
  refine note_wp (φ := φ) rfl fun s1 h1 _ _ => ?_
  have hs1 : Settled cfg base may (s1.core φ) := hs.congr h1
  refine wp_ite.mpr ⟨fun _ => ?_, fun _ => wp_ite.mpr ⟨fun _ => ?_, fun _ => ?_⟩⟩
  · rw [wp_bind, updateSession, wp_modifySess]
    exact (replying_write hk _ _).settled hs1.setEpsvAll fun _ _ hs' => hs'
  · exact (replying_write hk _ _).settled hs1 fun _ _ hs' => hs'
  · exact enterPasv_settled hk hs1 isEpsv

end Vsftpd.Session
