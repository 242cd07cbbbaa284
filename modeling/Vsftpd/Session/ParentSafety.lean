import Vsftpd.Session.PostPrivParent

/-!
# The parent against an arbitrary child

What the parent hands back, whose files it gives away and how many listeners it
holds, whatever bytes and descriptors arrive.
-/

namespace Vsftpd.Session

open Vsftpd.Lib

variable {W : Type} {cfg : Tunables} {k : Kernel W} {base : VsfSession}

/-- The session's remote address at an unprivileged port. -/
def RemoteTarget (base : VsfSession) (addr : SockAddr) : Prop :=
  vsfSysutilSockaddrAddrEqual base.remoteAddr addr = true ∧
    1024 ≤ (vsfSysutilSockaddrGetPort addr).toNat

/-- Listening on the session's local address. -/
def OwnListener (base : VsfSession) (sock : Sock) : Prop :=
  sock.listening = true ∧
    ∃ addr, sock.boundTo = some addr ∧ vsfSysutilSockaddrAddrEqual base.localAddr addr = true

/-- What the parent's copy of the session keeps from the login. -/
structure ParentData (base sess : VsfSession) : Prop where
  localAddr : sess.localAddr = base.localAddr
  remoteAddr : vsfSysutilSockaddrClone sess.remoteAddr = vsfSysutilSockaddrClone base.remoteAddr
  anonFtpUid : sess.anonFtpUid = base.anonFtpUid
  guestUserUid : sess.guestUserUid = base.guestUserUid
  anonUploadChownUid : sess.anonUploadChownUid = base.anonUploadChownUid

theorem ParentData.setListener {sess : VsfSession} (h : ParentData base sess) (fd : Fd) :
    ParentData base { sess with pasvListenFd := fd } :=
  ⟨h.localAddr, h.remoteAddr, h.anonFtpUid, h.guestUserUid, h.anonUploadChownUid⟩

structure ParentInv (base : VsfSession) (s : State W) : Prop where
  data : ParentData base s.parent
  listener : s.parent.pasvListenFd ≠ -1 →
    s.parent.pasvListenFd < s.nextFd ∧ OwnListener base (s.socks s.parent.pasvListenFd)
  onlyListener : ∀ fd, (s.socks fd).listening = true →
    s.parent.pasvListenFd ≠ -1 ∧ fd = s.parent.pasvListenFd

/-- Only the parent's data, the sockets and the descriptor count matter. -/
theorem ParentInv.of_eq {s s' : State W} (h : ParentInv base s) (hp : s'.parent = s.parent)
    (hs : s'.socks = s.socks) (hn : s.nextFd ≤ s'.nextFd) : ParentInv base s' := by
  constructor
  · rw [hp]
    exact h.data
  · rw [hp, hs]
    intro hl
    exact ⟨Int.lt_of_lt_of_le (h.listener hl).1 (Int.ofNat_le.mpr hn), (h.listener hl).2⟩
  · rw [hp, hs]
    exact h.onlyListener

theorem ParentInv.silent {s : State W} (h : ParentInv base s) (hl : s.parent.pasvListenFd = -1)
    (fd : Fd) : (s.socks fd).listening = false := by
  by_contra hlistening
  exact (h.onlyListener fd (by simpa using hlistening)).1 hl

/-- A socket other than the listener may change, if it does not listen. -/
theorem ParentInv.update {s : State W} (h : ParentInv base s) {fd : Fd} {sock : Sock}
    (hfd : s.parent.pasvListenFd ≠ -1 → fd ≠ s.parent.pasvListenFd)
    (hsock : sock.listening = false) :
    ParentInv base { s with socks := Function.update s.socks fd sock } where
  data := h.data
  listener := by
    intro hl
    refine ⟨(h.listener hl).1, ?_⟩
    show OwnListener base (Function.update s.socks fd sock s.parent.pasvListenFd)
    rw [Function.update_of_ne (hfd hl).symm]
    exact (h.listener hl).2
  onlyListener := by
    intro fd' hl
    have hl' : (Function.update s.socks fd sock fd').listening = true := hl
    by_cases hne : fd' = fd
    · rw [hne, Function.update_self, hsock] at hl'
      exact absurd hl' Bool.false_ne_true
    · rw [Function.update_of_ne hne] at hl'
      exact h.onlyListener fd' hl'

/-- A socket that is not the listener. -/
structure DataSock (base : VsfSession) (fd : Fd) (s : State W) : Prop where
  inv : ParentInv base s
  ne_listener : s.parent.pasvListenFd ≠ -1 → fd ≠ s.parent.pasvListenFd
  not_listening : (s.socks fd).listening = false

theorem DataSock.update {fd : Fd} {s : State W} (h : DataSock base fd s) (sock : Sock)
    (hsock : sock.listening = false) (w : W) :
    DataSock base fd { s with world := w, socks := Function.update s.socks fd sock } := by
  refine ⟨?_, h.ne_listener, ?_⟩
  · exact (h.inv.update h.ne_listener hsock).of_eq rfl rfl (Nat.le_refl _)
  · show (Function.update s.socks fd sock fd).listening = false
    rw [Function.update_self]
    exact hsock

/-- The new listener's socket before it listens. -/
structure Opening (base : VsfSession) (s : State W) : Prop where
  data : ParentData base s.parent
  isOpen : s.parent.pasvListenFd ≠ -1
  lt_nextFd : s.parent.pasvListenFd < s.nextFd
  silent : ∀ fd, (s.socks fd).listening = false

theorem Opening.update {s : State W} (h : Opening base s) (sock : Sock)
    (hsock : sock.listening = false) (w : W) :
    Opening base { s with
      world := w
      socks := Function.update s.socks s.parent.pasvListenFd sock } where
  data := h.data
  isOpen := h.isOpen
  lt_nextFd := h.lt_nextFd
  silent := by
    intro fd
    show (Function.update s.socks s.parent.pasvListenFd sock fd).listening = false
    by_cases hne : fd = s.parent.pasvListenFd
    · rw [hne, Function.update_self, hsock]
    · rw [Function.update_of_ne hne]
      exact h.silent fd

theorem Opening.listen {s : State W} (h : Opening base s) {addr : SockAddr}
    (haddr : vsfSysutilSockaddrAddrEqual base.localAddr addr = true)
    (hbound : (s.socks s.parent.pasvListenFd).boundTo = some addr) (w : W) :
    ParentInv base { s with
      world := w
      socks := Function.update s.socks s.parent.pasvListenFd
        { s.socks s.parent.pasvListenFd with listening := true } } where
  data := h.data
  listener := by
    intro _
    refine ⟨h.lt_nextFd, ?_⟩
    show OwnListener base (Function.update s.socks s.parent.pasvListenFd _ _)
    rw [Function.update_self]
    exact ⟨rfl, addr, hbound, haddr⟩
  onlyListener := by
    intro fd hl
    refine ⟨h.isOpen, ?_⟩
    by_contra hne
    have hl' : (Function.update s.socks s.parent.pasvListenFd _ fd).listening = true := hl
    rw [Function.update_of_ne hne, h.silent fd] at hl'
    exact Bool.false_ne_true hl'

theorem ParentInv.setIncoming {s : State W} (h : ParentInv base s) (p : Proc)
    (bs : List ChannelByte) (w : W) :
    ParentInv base (State.setIncoming { s with world := w } p bs) := by
  cases p
  · exact h.of_eq rfl rfl (Nat.le_refl _)
  · exact h.of_eq rfl rfl (Nat.le_refl _)

/-- The port of a request, cut down to an `unsigned short`. -/
def requestedPort (b0 b1 b2 b3 : ChannelByte) : UInt16 :=
  UInt16.ofNat (bytesInt b0.byte b1.byte b2.byte b3.byte % 2 ^ 16).toNat

/-- What `fstat` says of the descriptor that follows a chown request. -/
def passedFile (k : Kernel W) (s : State W) (passed : Passed) : Option Statbuf :=
  k.fstat (k.run (.recvFd s.nextFd passed.file) (k.run .waitRequest s.world).2).2 s.nextFd

def RefusedChown (k : Kernel W) (s : State W) : List ChannelByte → Prop
  | ⟨_, some passed⟩ :: _ =>
    ∀ statbuf, passedFile k s passed = some statbuf →
      statbuf.uid ≠ s.parent.anonUploadChownUid ∧ chownRefused s.parent statbuf
  | _ => True

def RefusedDataSock (s : State W) : List ChannelByte → Prop
  | b0 :: b1 :: b2 :: b3 :: _ =>
    s.parent.pasvListenFd ≠ -1 ∨ vsfSysutilIsPortReserved (requestedPort b0 b1 b2 b3) = true
  | _ => True

/-- What is waiting for the parent is not a request that it grants: an unknown byte,
a request cut short, one that a check turns down, or the end of the stream. -/
def Refused (cfg : Tunables) (k : Kernel W) (s : State W) : Prop :=
  match s.toParent with
  | [] => True
  | b :: rest =>
    if cfg.chownUploads ∧ b.byte = privSockChown then RefusedChown k s rest
    else if b.byte = privSockGetDataSock then RefusedDataSock s rest
    else if b.byte = privSockPasvCleanup ∨ b.byte = privSockPasvActive then False
    else if b.byte = privSockPasvListen then s.parent.pasvListenFd ≠ -1
    else if b.byte = privSockPasvAccept then s.parent.pasvListenFd = -1
    else True

end Vsftpd.Session
