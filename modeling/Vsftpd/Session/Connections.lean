import Vsftpd.Session.Replies

/-!
# Getting and giving up endpoints

What the privileged operations do to the core of a state without a data connection,
in one process or through the parent.
-/

namespace Vsftpd.Session

open Vsftpd.Lib

variable {W X α : Type} {cfg : Tunables} {k : Kernel W} {base : VsfSession} {φ : W → X}
  {may : SockAddr → Prop} {start s : State W}

/-! ## Listeners -/

def Core.setListenOf (c : Core X) (p : Proc) (fd : Fd) : Core X :=
  match p with
  | .session => { c with listenFd := fd }
  | .parent => { c with parentListenFd := fd }

theorem Core.setListenOf_self (c : Core X) {p : Proc} {fd : Fd} (h : c.listenOf p = fd) :
    c.setListenOf p fd = c := by
  subst h
  cases p <;> rfl

theorem Core.setListenOf_setListenOf (c : Core X) (p : Proc) (fd fd' : Fd) :
    (c.setListenOf p fd).setListenOf p fd' = c.setListenOf p fd' := by
  cases p <;> rfl

theorem Detached.setListenOf {c : Core X} (h : Detached c) (p : Proc) (fd : Fd) :
    Detached (c.setListenOf p fd) := by
  cases p <;> exact { h with }

@[simp] theorem Core.turn_setListenOf (c : Core X) (p : Proc) (fd : Fd) :
    (c.setListenOf p fd).turn = c.turn := by
  cases p <;> rfl

theorem listenOf_core (s : State W) (p : Proc) :
    (s.core φ).listenOf p = (s.sess p).pasvListenFd := by
  cases p <;> rfl

theorem core_setListener (s : State W) (p : Proc) (fd : Fd) :
    (s.setSess p { s.sess p with pasvListenFd := fd }).core φ = (s.core φ).setListenOf p fd := by
  cases p <;> rfl

/-! ## Primitives without a data connection -/

theorem ne_neg_one_of_nonneg {fd : Fd} (h : 0 ≤ fd) : fd ≠ -1 := by
  rintro rfl
  exact absurd h (by decide)

theorem ne_neg_two_of_nonneg {fd : Fd} (h : 0 ≤ fd) : fd ≠ -2 := by
  rintro rfl
  exact absurd h (by decide)

theorem core_setSocks (hd : Detached (s.core φ)) (socks : Fd → Sock) :
    ({ s with socks := socks } : State W).core φ = s.core φ := by
  have hfd : s.session.dataFd = -1 := hd.dataFd
  unfold State.core
  rw [if_pos hfd, if_pos hfd]

/-- A call that either process may make. -/
theorem sharedSys_wp {c : Syscall} {Q : Answer c → State W → Prop} (hk : KeepsFs k φ)
    (hc : SharedCall c) (hd : Detached (s.core φ))
    (hq : ∀ a s', s'.core φ = s.core φ → s'.socks = s.socks → Q a s') :
    wp (sessionRequirement cfg k base φ may start) (sys k c) Q s := by
  rw [wp_sys]
  refine ⟨⟨hd.eventInv, fun _ => hc.parent, issued_of_calm hc.calm⟩, hq _ _ ?_ rfl⟩
  exact core_run hk hc.calm.leavesFs s

/-- What the process whose turn it is does when it checks for pending actions. -/
def ChecksFor (cfg : Tunables) (k : Kernel W) (φ : W → X) (chk : M W Unit) : Proc → Prop
  | .session => Calm cfg k φ chk
  | .parent => chk = noPending

theorem ChecksFor.wp {chk : M W Unit} {Q : Unit → State W → Prop}
    (h : ChecksFor cfg k φ chk (s.core φ).turn) (hd : Detached (s.core φ))
    (hq : ∀ s', s'.core φ = s.core φ → s'.socks = s.socks → Q () s') :
    wp (sessionRequirement cfg k base φ may start) chk Q s := by
  cases hturn : (s.core φ).turn with
  | session =>
      rw [hturn] at h
      exact Calm.wp h ⟨hd.eventInv, hturn⟩ fun _ s' => hq s'
  | parent =>
      rw [hturn] at h
      have hnone : chk = noPending := h
      rw [hnone, noPending]
      exact wp_pure.mpr (hq s rfl rfl)

theorem newFd_wp {Q : Fd → State W → Prop}
    (hq : ∀ fd s', 0 ≤ fd → s'.core φ = s.core φ → Q fd s') :
    wp (sessionRequirement cfg k base φ may start) newFd Q s :=
  wp_newFd.mpr (hq _ _ (Int.natCast_nonneg _) rfl)

theorem modifySock_wp {fd : Fd} {f : Sock → Sock} {Q : Unit → State W → Prop}
    (hd : Detached (s.core φ))
    (hq : ∀ s', s'.core φ = s.core φ → s'.socks fd = f (s.socks fd) → Q () s') :
    wp (sessionRequirement cfg k base φ may start) (modifySock fd f) Q s :=
  wp_modifySock.mpr (hq _ (core_setSocks hd _) (Function.update_self ..))

theorem getSock_calm {ipv6 : Bool} {Q : Fd → State W → Prop} (hk : KeepsFs k φ)
    (hd : Detached (s.core φ)) (hq : ∀ fd s', 0 ≤ fd → s'.core φ = s.core φ → Q fd s') :
    wp (sessionRequirement cfg k base φ may start) (vsfSysutilGetSock k ipv6) Q s := by
  rw [vsfSysutilGetSock, wp_bind]
  refine sharedSys_wp hk trivial hd fun a s1 h1 _ => wp_ite.mpr ⟨fun _ => ?_, fun _ => ?_⟩
  · rw [wp_bind]
    refine newFd_wp fun fd s2 hfd h2 => ?_
    rw [wp_bind]
    refine modifySock_wp (h2.trans h1 ▸ hd) fun s3 h3 _ => wp_pure.mpr ?_
    exact hq fd s3 hfd (h3.trans (h2.trans h1))
  · refine wp_die.mpr (answerable_die _ _ _ _ ?_)
    cases ipv6 <;> decide

theorem reuseaddr_calm {fd : Fd} {Q : Unit → State W → Prop} (hk : KeepsFs k φ)
    (hd : Detached (s.core φ)) (hq : ∀ s', s'.core φ = s.core φ → Q () s') :
    wp (sessionRequirement cfg k base φ may start) (vsfSysutilActivateReuseaddr k fd) Q s := by
  rw [vsfSysutilActivateReuseaddr, wp_bind]
  refine sharedSys_wp hk trivial hd fun a s1 h1 _ => wp_ite.mpr ⟨fun _ => ?_, fun _ => ?_⟩
  · exact wp_pure.mpr (hq s1 h1)
  · exact wp_die.mpr (answerable_die _ _ _ _ (by decide))

theorem bind_calm {fd : Fd} {addr : SockAddr} {Q : Except SockError Unit → State W → Prop}
    (hk : KeepsFs k φ) (hd : Detached (s.core φ))
    (hq : ∀ a s', s'.core φ = s.core φ → Q a s') :
    wp (sessionRequirement cfg k base φ may start) (vsfSysutilBind k fd addr) Q s := by
  rw [vsfSysutilBind, wp_bind]
  refine sharedSys_wp hk trivial hd fun a s1 h1 _ => ?_
  cases a with
  | error e => exact wp_pure.mpr (hq _ s1 h1)
  | ok =>
      show wp _ (_ >>= _) _ _
      rw [wp_bind]
      exact modifySock_wp (h1 ▸ hd) fun s2 h2 _ => wp_pure.mpr (hq _ s2 (h2.trans h1))

theorem listen_calm {fd : Fd} {Q : Except SockError Unit → State W → Prop}
    (hk : KeepsFs k φ) (hd : Detached (s.core φ))
    (hq : ∀ a s', s'.core φ = s.core φ → Q a s') :
    wp (sessionRequirement cfg k base φ may start) (vsfSysutilListen k fd) Q s := by
  rw [vsfSysutilListen, wp_bind]
  refine sharedSys_wp hk trivial hd fun a s1 h1 _ => ?_
  cases a with
  | error e =>
      cases e with
      | addrInUse => exact wp_pure.mpr (hq _ s1 h1)
      | acces => exact wp_die.mpr (answerable_die _ _ _ _ (by decide))
      | other => exact wp_die.mpr (answerable_die _ _ _ _ (by decide))
  | ok =>
      show wp _ (_ >>= _) _ _
      rw [wp_bind]
      exact modifySock_wp (h1 ▸ hd) fun s2 h2 _ => wp_pure.mpr (hq _ s2 (h2.trans h1))

theorem close_calm {chk : M W Unit} {fd : Fd} {Q : Unit → State W → Prop}
    (hk : KeepsFs k φ)
    (hchk : ChecksFor cfg k φ chk (s.core φ).turn) (hd : Detached (s.core φ))
    (hq : ∀ s', s'.core φ = s.core φ → Q () s') :
    wp (sessionRequirement cfg k base φ may start) (vsfSysutilClose k chk fd) Q s := by
  rw [vsfSysutilClose, wp_bind]
  refine sharedSys_wp hk trivial hd fun a s1 h1 _ => ?_
  rw [wp_bind]
  refine modifySock_wp (h1 ▸ hd) fun s2 h2 _ => ?_
  rw [wp_bind]
  have h21 := h2.trans h1
  refine ChecksFor.wp (h21 ▸ hchk) (h21 ▸ hd) fun s3 h3 _ => wp_ite.mpr ⟨fun _ => ?_, fun _ => ?_⟩
  · exact wp_pure.mpr (hq s3 (h3.trans h21))
  · exact wp_die.mpr (answerable_die _ _ _ _ (by decide))

theorem bindLoop_calm {chk : M W Unit} (hk : KeepsFs k φ)
    (hchk : ChecksFor cfg k φ chk (s.core φ).turn) {fd : Fd}
    {localAddr : SockAddr} {port : UInt16} (n : Nat) {Q : Unit → State W → Prop}
    (hd : Detached (s.core φ)) (hq : ∀ s', s'.core φ = s.core φ → Q () s') :
    wp (sessionRequirement cfg k base φ may start) (bindLoop k chk fd localAddr port n) Q s := by
  induction n generalizing s with
  | zero => exact wp_pure.mpr (hq s rfl)
  | succ n ih =>
      rw [bindLoop, wp_bind]
      refine bind_calm hk hd fun a s1 h1 => ?_
      cases a with
      | ok => exact wp_pure.mpr (hq s1 h1)
      | error e =>
          refine wp_ite.mpr ⟨fun _ => wp_die.mpr (answerable_die _ _ _ _ (by decide)), fun _ => ?_⟩
          rw [wp_bind]
          refine sharedSys_wp hk trivial (h1 ▸ hd) fun _ s2 h2 _ => ?_
          rw [wp_bind]
          have h21 := h2.trans h1
          refine sharedSys_wp hk trivial (h21 ▸ hd) fun _ s3 h3 _ => ?_
          rw [wp_bind]
          have h31 := h3.trans h21
          refine ChecksFor.wp (h31 ▸ hchk) (h31 ▸ hd) fun s4 h4 _ => ?_
          have h41 := h4.trans h31
          exact ih (h41 ▸ hchk) (h41 ▸ hd) fun s5 h5 => hq s5 (h5.trans h41)

theorem connect_calm {chk : M W Unit} (hk : KeepsFs k φ)
    (hchk : ChecksFor cfg k φ chk (s.core φ).turn) {fd : Fd}
    {addr : SockAddr} {Q : Bool → State W → Prop} (hd : Detached (s.core φ))
    (haddr : cfg.portPromiscuous = false → RemoteTarget base addr)
    (hq : ∀ a s', s'.core φ = s.core φ →
      (a = true → (s'.socks fd).connectedTo = some addr) → Q a s') :
    wp (sessionRequirement cfg k base φ may start)
      (vsfSysutilConnectTimeout k chk fd addr) Q s := by
  rw [vsfSysutilConnectTimeout, wp_bind, wp_sys]
  refine ⟨⟨hd.eventInv, fun _ => trivial, haddr⟩, ?_⟩
  generalize (k.run (.connect fd addr) s.world).1 = a
  have h1 := core_run hk (c := .connect fd addr) trivial s
  generalize hs1 : ({ s with world := (k.run (.connect fd addr) s.world).2 } : State W) = s1
  rw [hs1] at h1
  rw [wp_bind, wp_whenever]
  refine ⟨fun ha => ?_, fun ha => ?_⟩
  · refine modifySock_wp (h1 ▸ hd) fun s2 h2 hsock => ?_
    rw [wp_bind]
    have h21 := h2.trans h1
    refine ChecksFor.wp (h21 ▸ hchk) (h21 ▸ hd) fun s3 h3 hsocks => wp_pure.mpr ?_
    refine hq a s3 (h3.trans h21) fun _ => ?_
    rw [hsocks, hsock]
  · rw [wp_bind]
    refine ChecksFor.wp (h1 ▸ hchk) (h1 ▸ hd) fun s3 h3 _ => wp_pure.mpr ?_
    exact hq a s3 (h3.trans h1) fun h => absurd h ha

theorem accept_calm {chk : M W Unit} (hk : KeepsFs k φ)
    (hchk : ChecksFor cfg k φ chk (s.core φ).turn) {fd : Fd}
    {Q : Option (Fd × SockAddr) → State W → Prop} (hd : Detached (s.core φ))
    (hnone : ∀ s', s'.core φ = s.core φ → Q none s')
    (hsome : ∀ remoteFd addr s', 0 ≤ remoteFd → s'.core φ = s.core φ →
      (s'.socks remoteFd).acceptedFrom = some (fd, addr) → Q (some (remoteFd, addr)) s') :
    wp (sessionRequirement cfg k base φ may start) (vsfSysutilAcceptTimeout k chk fd) Q s := by
  rw [vsfSysutilAcceptTimeout, wp_bind]
  refine sharedSys_wp hk trivial hd fun a s1 h1 _ => ?_
  cases a with
  | none =>
      show wp _ (_ >>= _) _ _
      rw [wp_bind]
      exact ChecksFor.wp (h1 ▸ hchk) (h1 ▸ hd) fun s2 h2 _ => wp_pure.mpr (hnone s2 (h2.trans h1))
  | some addr =>
      show wp _ (_ >>= _) _ _
      rw [wp_bind]
      refine newFd_wp fun remoteFd s2 hfd h2 => ?_
      rw [wp_bind]
      have h21 := h2.trans h1
      refine modifySock_wp (h21 ▸ hd) fun s3 h3 hsock => ?_
      rw [wp_bind]
      have h31 := h3.trans h21
      refine ChecksFor.wp (h31 ▸ hchk) (h31 ▸ hd) fun s4 h4 hsocks => wp_pure.mpr ?_
      refine hsome remoteFd addr s4 hfd (h4.trans h31) ?_
      rw [hsocks, hsock]

/-! ## `privops.c` -/

theorem privopPasvCleanup_calm {chk : M W Unit} (hk : KeepsFs k φ)
    (hchk : ChecksFor cfg k φ chk (s.core φ).turn) {p : Proc} {Q : Unit → State W → Prop}
    (hd : Detached (s.core φ))
    (hq : ∀ s', s'.core φ = (s.core φ).setListenOf p (-1) → Q () s') :
    wp (sessionRequirement cfg k base φ may start) (vsfPrivopPasvCleanup k chk p) Q s := by
  rw [vsfPrivopPasvCleanup, wp_bind, wp_getSess]
  refine wp_ite.mpr ⟨fun _ => ?_, fun hnone => wp_pure.mpr (hq s ?_)⟩
  · rw [wp_bind]
    refine close_calm hk hchk hd fun s1 h1 => wp_modifySess.mpr (hq _ ?_)
    rw [core_setListener, h1]
  · refine (Core.setListenOf_self _ ?_).symm
    rw [listenOf_core]
    exact not_not.mp hnone

theorem privopPasvActive_wp {p : Proc} {Q : Bool → State W → Prop}
    (hq : ∀ a, (a = true ↔ (s.core φ).listenOf p ≠ -1) → Q a s) :
    wp (sessionRequirement cfg k base φ may start) (vsfPrivopPasvActive p) Q s := by
  rw [vsfPrivopPasvActive, wp_bind, wp_getSess, wp_pure]
  refine hq _ ?_
  rw [listenOf_core]
  exact decide_eq_true_iff

theorem bindAndListen_calm {fd : Fd} {addr : SockAddr} {Q : Except SockError Unit → State W → Prop}
    (hk : KeepsFs k φ) (hd : Detached (s.core φ))
    (hq : ∀ a s', s'.core φ = s.core φ → Q a s') :
    wp (sessionRequirement cfg k base φ may start) (bindAndListen k fd addr) Q s := by
  rw [bindAndListen, wp_bind]
  refine bind_calm hk hd fun a s1 h1 => ?_
  cases a with
  | error e => exact wp_pure.mpr (hq _ s1 h1)
  | ok => exact listen_calm hk (h1 ▸ hd) fun a s2 h2 => hq a s2 (h2.trans h1)

theorem pasvListenLoop_calm {chk : M W Unit} (hk : KeepsFs k φ)
    (hchk : ChecksFor cfg k φ chk (s.core φ).turn) {p : Proc} {localAddr : SockAddr} (n : Nat)
    {Q : UInt16 → State W → Prop} (hd : Detached (s.core φ))
    (hq : ∀ port fd s', fd ≠ -1 → s'.core φ = (s.core φ).setListenOf p fd → Q port s') :
    wp (sessionRequirement cfg k base φ may start)
      (pasvListenLoop cfg k chk p localAddr n) Q s := by
  induction n generalizing s with
  | zero => exact wp_die.mpr (answerable_die _ _ _ _ (by decide))
  | succ n ih =>
      have hchkAt (fd : Fd) : ChecksFor cfg k φ chk ((s.core φ).setListenOf p fd).turn := by
        rw [Core.turn_setListenOf]
        exact hchk
      rw [pasvListenLoop, wp_bind]
      refine sharedSys_wp hk trivial hd fun hi s1 h1 _ => ?_
      rw [wp_bind]
      refine sharedSys_wp hk trivial (h1 ▸ hd) fun lo s2 h2 _ => ?_
      dsimp only
      rw [wp_bind]
      have h21 := h2.trans h1
      refine getSock_calm hk (h21 ▸ hd) fun fd s3 hfd h3 => ?_
      rw [wp_bind, wp_modifySess]
      have h4 : (s3.setSess p { s3.sess p with pasvListenFd := fd }).core φ =
          (s.core φ).setListenOf p fd := by
        rw [core_setListener, h3.trans h21]
      have hd4 := h4 ▸ hd.setListenOf p fd
      rw [wp_bind]
      refine reuseaddr_calm hk hd4 fun s5 h5 => ?_
      rw [wp_bind]
      have h54 := h5.trans h4
      refine bindAndListen_calm hk (h54 ▸ hd.setListenOf p fd) fun a s6 h6 => ?_
      have h64 := h6.trans h54
      -- the socket is given up and another port is tried
      have hretry : wp (sessionRequirement cfg k base φ may start)
          (do
            vsfSysutilClose k chk fd
            modifySess p fun sess => { sess with pasvListenFd := -1 }
            pasvListenLoop cfg k chk p localAddr n) Q s6 := by
        rw [wp_bind]
        refine close_calm hk (h64 ▸ hchkAt fd) (h64 ▸ hd.setListenOf p fd) fun s7 h7 => ?_
        rw [wp_bind, wp_modifySess]
        have h8 : (s7.setSess p { s7.sess p with pasvListenFd := -1 }).core φ =
            (s.core φ).setListenOf p (-1) := by
          rw [core_setListener, h7.trans h64, Core.setListenOf_setListenOf]
        refine ih (h8 ▸ hchkAt (-1)) (h8 ▸ hd.setListenOf p (-1)) fun port fd' s9 hfd' h9 =>
          hq port fd' s9 hfd' ?_
        rw [h9, h8, Core.setListenOf_setListenOf]
      cases a with
      | ok => exact wp_pure.mpr (hq _ fd s6 (ne_neg_one_of_nonneg hfd) h64)
      | error e =>
          cases e with
          | other => exact wp_die.mpr (answerable_die _ _ _ _ (by decide))
          | addrInUse => exact hretry
          | acces => exact hretry

theorem privopPasvListen_calm {chk : M W Unit} (hk : KeepsFs k φ)
    (hchk : ChecksFor cfg k φ chk (s.core φ).turn) {p : Proc} {Q : UInt16 → State W → Prop}
    (hd : Detached (s.core φ)) (hoff : (s.core φ).listenOf p = -1)
    (hq : ∀ port fd s', fd ≠ -1 → s'.core φ = (s.core φ).setListenOf p fd → Q port s') :
    wp (sessionRequirement cfg k base φ may start) (vsfPrivopPasvListen cfg k chk p) Q s := by
  rw [listenOf_core] at hoff
  rw [vsfPrivopPasvListen, wp_bind, wp_getSess]
  exact wp_ite.mpr ⟨fun hne => absurd hoff hne, fun _ => pasvListenLoop_calm hk hchk 9 hd hq⟩

/-- What comes back for a data connection: nothing, or a socket that may serve. -/
def Offered (cfg : Tunables) (base : VsfSession) (fd : Fd) (s : State W) : Prop :=
  fd = -1 ∨ fd = -2 ∨ 0 ≤ fd ∧ DataConn cfg base (s.socks fd)

theorem privopAcceptPasv_calm {chk : M W Unit} (hk : KeepsFs k φ)
    (hchk : ChecksFor cfg k φ chk (s.core φ).turn) {p : Proc} {Q : Fd → State W → Prop}
    (hd : Detached (s.core φ)) (hon : (s.core φ).listenOf p ≠ -1)
    (hremote : vsfSysutilSockaddrClone (s.sess p).remoteAddr =
      vsfSysutilSockaddrClone base.remoteAddr)
    (hq : ∀ fd s', s'.core φ = s.core φ → Offered cfg base fd s' → Q fd s') :
    wp (sessionRequirement cfg k base φ may start) (vsfPrivopAcceptPasv cfg k chk p) Q s := by
  rw [listenOf_core] at hon
  rw [vsfPrivopAcceptPasv, wp_bind, wp_getSess]
  refine wp_ite.mpr ⟨fun hoff => absurd hoff hon, fun _ => ?_⟩
  rw [wp_bind]
  refine accept_calm hk hchk hd (fun s1 h1 => wp_pure.mpr (hq _ s1 h1 (.inl rfl))) ?_
  intro remoteFd addr s1 hfd h1 hsock
  refine wp_ite.mpr ⟨fun _ => ?_, fun hgood => wp_pure.mpr (hq _ s1 h1 (.inr (.inr ⟨hfd, ?_⟩)))⟩
  · rw [wp_bind]
    exact close_calm hk (h1 ▸ hchk) (h1 ▸ hd) fun s2 h2 =>
      wp_pure.mpr (hq _ s2 (h2.trans h1) (.inr (.inl rfl)))
  · refine .inr ⟨_, addr, hsock, fun hprom => ?_⟩
    have heq : vsfSysutilSockaddrAddrEqual (s.sess p).remoteAddr addr = true := by
      by_contra hne
      exact hgood (by simpa [hprom] using hne)
    rw [← addrEqual_clone_left, ← hremote, addrEqual_clone_left]
    exact heq

/-- A reserved port is asked for only when the address is not checked, and only if such an
address may be stored. -/
def PortAsked (cfg : Tunables) (may : SockAddr → Prop) (port : UInt16) : Prop :=
  vsfSysutilIsPortReserved port = true → cfg.portPromiscuous = true ∧
    ∃ addr, may addr ∧ vsfSysutilIsPortReserved (vsfSysutilSockaddrGetPort addr) = true

theorem privopGetFtpPortSock_calm {chk : M W Unit} (hk : KeepsFs k φ)
    (hchk : ChecksFor cfg k φ chk (s.core φ).turn) {p : Proc} {remotePort : UInt16}
    {usePortSockaddr : Bool} {Q : Fd → State W → Prop} (hd : Detached (s.core φ))
    (hoff : (s.core φ).listenOf p = -1) (hport : PortAsked cfg may remotePort)
    (haddr : vsfSysutilIsPortReserved remotePort = false → ∀ s', s'.core φ = s.core φ →
      wp (sessionRequirement cfg k base φ may start)
        (connectAddr p (s.sess p) remotePort usePortSockaddr)
        (fun addr s'' => s''.core φ = s.core φ ∧
          (cfg.portPromiscuous = false → RemoteTarget base addr)) s')
    (hq : ∀ fd s', s'.core φ = s.core φ → fd ≠ -2 → Offered cfg base fd s' → Q fd s') :
    wp (sessionRequirement cfg k base φ may start)
      (vsfPrivopGetFtpPortSock cfg k chk p remotePort usePortSockaddr) Q s := by
  rw [listenOf_core] at hoff
  rw [vsfPrivopGetFtpPortSock, wp_bind, wp_getSess, wp_bind]
  refine getSock_calm hk hd fun fd s1 hfd h1 => ?_
  refine wp_ite.mpr ⟨fun hne => absurd hoff hne, fun _ => ?_⟩
  refine wp_ite.mpr ⟨fun hreserved => wp_die.mpr ?_, fun hfree => ?_⟩
  · obtain ⟨hprom, hstored⟩ := hport hreserved
    exact ⟨fun _ => .inl ⟨rfl, hprom⟩, fun _ => hstored⟩
  dsimp only
  rw [wp_bind]
  refine reuseaddr_calm hk (h1 ▸ hd) fun s2 h2 => ?_
  rw [wp_bind]
  have h21 := h2.trans h1
  refine bindLoop_calm hk (h21 ▸ hchk) 2 (h21 ▸ hd) fun s3 h3 => ?_
  rw [wp_bind]
  have h31 := h3.trans h21
  refine (haddr (Bool.eq_false_iff.mpr hfree) s3 h31).mono fun addr s4 h4 => ?_
  obtain ⟨h4, htarget⟩ := h4
  rw [wp_bind]
  refine connect_calm hk (h4 ▸ hchk) (h4 ▸ hd) htarget fun ok s5 h5 hsock => ?_
  have h54 := h5.trans h4
  refine wp_ite.mpr ⟨fun hok => wp_pure.mpr ?_, fun _ => ?_⟩
  · refine hq fd s5 h54 (ne_neg_two_of_nonneg hfd) ?_
    exact .inr (.inr ⟨hfd, .inl ⟨addr, hsock hok, htarget⟩⟩)
  · rw [wp_bind]
    exact close_calm hk (h54 ▸ hchk) (h54 ▸ hd) fun s6 h6 =>
      wp_pure.mpr (hq _ s6 (h6.trans h54) (by decide) (.inl rfl))

theorem doFileChown_calm {p : Proc} {fd : Fd} {Q : Unit → State W → Prop} (hk : KeepsFs k φ)
    (hd : Detached (s.core φ)) (hgives : GivesAway cfg k base φ start)
    (hq : ∀ s', s'.core φ = s.core φ → Q () s') :
    wp (sessionRequirement cfg k base φ may start) (vsfPrivopDoFileChown k p fd) Q s := by
  rw [vsfPrivopDoFileChown, wp_bind, wp_get]
  dsimp only
  cases k.fstat s.world fd with
  | none => exact wp_die.mpr (answerable_die _ _ _ _ (by decide))
  | some statbuf =>
      refine wp_ite.mpr ⟨fun _ => wp_pure.mpr (hq s rfl), fun _ => ?_⟩
      refine wp_ite.mpr ⟨fun _ => wp_die.mpr (answerable_die _ _ _ _ (by decide)), fun _ => ?_⟩
      rw [wp_bind, wp_sys]
      refine ⟨⟨hd.eventInv, fun _ => trivial, hgives⟩, wp_ite.mpr ⟨fun _ => ?_, fun _ => ?_⟩⟩
      · exact wp_pure.mpr (hq _ (core_run hk (c := .fchown fd _) trivial s))
      · exact wp_die.mpr (answerable_die _ _ _ _ (by decide))

end Vsftpd.Session
