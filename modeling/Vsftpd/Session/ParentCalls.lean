import Vsftpd.Session.Requests

/-!
# The calls and ends of the privileged operations

Whichever process they run in and whatever state they find, the privileged operations
make calls of the parent only.  They end a process early with the text of a failure, and
the refusal of a reserved port comes from one of them only.
-/

namespace Vsftpd.Session

open Vsftpd.Lib

variable {W X α : Type} {cfg : Tunables} {k : Kernel W} {φ : W → X} {calls : Syscall → Prop}
  {halts : Halt → Prop}

/-- What is known of the file system, whose session it is and on which address. -/
def State.known (φ : W → X) (s : State W) : X × Bool × SockAddr :=
  (φ s.world, s.session.isAnonymous, s.session.localAddr)

/-- Every call is one of `calls`, every early end one of `halts`, and what is known stays. -/
abbrev Confined (φ : W → X) (calls : Syscall → Prop) (halts : Halt → Prop) (m : M W α) : Prop :=
  Quiet (State.known φ) (fun _ e => calls e.call) halts m

theorem confined_sys {c : Syscall} (hc : calls c) (hkeeps : ∀ w, φ (k.run c w).2 = φ w) :
    Confined φ calls halts (sys k c) :=
  Quiet.emit (fun _ => hc) fun s =>
    congrArg (fun x => (x, s.session.isAnonymous, s.session.localAddr)) (hkeeps s.world)

theorem confined_getSess (p : Proc) : Confined φ calls halts (getSess p : M W VsfSession) :=
  Quiet.bind Quiet.get fun _ => Quiet.pure _

theorem confined_newFd : Confined φ calls halts (newFd : M W Fd) :=
  Quiet.bind Quiet.get fun _ => Quiet.bind (Quiet.modify fun _ => rfl) fun _ => Quiet.pure _

theorem confined_modifySock {fd : Fd} {f : Sock → Sock} :
    Confined φ calls halts (modifySock fd f : M W Unit) :=
  Quiet.modify fun _ => rfl

theorem confined_setListener {p : Proc} {fd : Fd} :
    Confined φ calls halts
      (modifySess p fun sess => { sess with pasvListenFd := fd } : M W Unit) :=
  Quiet.modify fun _ => by cases p <;> rfl

theorem confined_setIncoming {p : Proc} {bs : State W → List ChannelByte} :
    Confined φ calls halts (Prog.modify fun s => s.setIncoming p (bs s) : M W Unit) :=
  Quiet.modify fun _ => by cases p <;> rfl

theorem confined_noPending : Confined φ calls halts (noPending : M W Unit) := Quiet.pure ()

/-- The calls of the parent and all ends but the refusal of a port. -/
structure ParentOps (k : Kernel W) (φ : W → X) (calls : Syscall → Prop) (halts : Halt → Prop) :
    Prop where
  call : ∀ c, ParentCall c → calls c
  keeps : ∀ c, ParentCall c → ∀ w, φ (k.run c w).2 = φ w
  die : ∀ text, text ≠ "Illegal port request" → halts (.die text)

theorem ParentOps.sys {c : Syscall} (h : ParentOps k φ calls halts) (hc : ParentCall c) :
    Confined φ calls halts (sys k c) :=
  confined_sys (h.call c hc) (h.keeps c hc)

section
variable (h : ParentOps k φ calls halts)
include h

/-! ## The channel -/

theorem confined_privSockWrite {p : Proc} {bs : Bytes} {failure : String}
    (hfailure : failure ≠ "Illegal port request") :
    Confined φ calls halts (privSockWrite k p bs failure) :=
  Quiet.bind (h.sys trivial) fun _ =>
    Quiet.ite confined_setIncoming (Quiet.halt (h.die _ hfailure))

theorem confined_sendFd {p : Proc} {fd : Fd} : Confined φ calls halts (privSockSendFd k p fd) :=
  Quiet.bind Quiet.get fun _ => Quiet.bind (h.sys trivial) fun _ =>
    Quiet.ite confined_setIncoming (Quiet.halt (h.die _ (by decide)))

theorem confined_recvFd {p : Proc} : Confined φ calls halts (privSockRecvFd k p) := by
  refine Quiet.bind Quiet.get fun s => ?_
  cases s.incoming p with
  | nil => exact Quiet.halt (h.die _ (by decide))
  | cons b bs =>
      obtain ⟨byte, passed⟩ := b
      cases passed with
      | none => exact Quiet.halt (h.die _ (by decide))
      | some passed =>
          exact Quiet.bind confined_setIncoming fun _ => Quiet.bind confined_newFd fun _ =>
            Quiet.bind confined_modifySock fun _ =>
              Quiet.bind (h.sys trivial) fun _ => Quiet.pure _

theorem confined_getByte {p : Proc} {failure : String}
    (hfailure : failure ≠ "Illegal port request") :
    Confined φ calls halts (privSockGetByte p failure : M W UInt8) := by
  refine Quiet.bind Quiet.get fun s => ?_
  cases s.incoming p with
  | nil => exact Quiet.halt (h.die _ hfailure)
  | cons b bs => exact Quiet.bind confined_setIncoming fun _ => Quiet.pure _

theorem confined_getInt {p : Proc} : Confined φ calls halts (privSockGetInt p : M W Int) := by
  refine Quiet.bind Quiet.get fun s => ?_
  split
  · exact Quiet.bind confined_setIncoming fun _ => Quiet.pure _
  · exact Quiet.halt (h.die _ (by decide))

/-! ## Sockets -/

theorem confined_getSock {ipv6 : Bool} : Confined φ calls halts (vsfSysutilGetSock k ipv6) := by
  refine Quiet.bind (h.sys trivial) fun _ => Quiet.ite ?_ ?_
  · exact Quiet.bind confined_newFd fun _ => Quiet.bind confined_modifySock fun _ => Quiet.pure _
  · refine Quiet.halt (h.die _ ?_)
    cases ipv6 <;> decide

theorem confined_close {chk : M W Unit} {fd : Fd} (hchk : Confined φ calls halts chk) :
    Confined φ calls halts (vsfSysutilClose k chk fd) :=
  Quiet.bind (h.sys trivial) fun _ => Quiet.bind confined_modifySock fun _ =>
    Quiet.bind hchk fun _ => Quiet.ite (Quiet.pure ()) (Quiet.halt (h.die _ (by decide)))

theorem confined_reuseaddr {fd : Fd} : Confined φ calls halts (vsfSysutilActivateReuseaddr k fd) :=
  Quiet.bind (h.sys trivial) fun _ =>
    Quiet.ite (Quiet.pure ()) (Quiet.halt (h.die _ (by decide)))

theorem confined_bind {fd : Fd} {addr : SockAddr} :
    Confined φ calls halts (vsfSysutilBind k fd addr) := by
  refine Quiet.bind (h.sys trivial) fun res => ?_
  cases res with
  | error e => exact Quiet.pure _
  | ok u => exact Quiet.bind confined_modifySock fun _ => Quiet.pure _

theorem confined_listen {fd : Fd} : Confined φ calls halts (vsfSysutilListen k fd) := by
  refine Quiet.bind (h.sys trivial) fun res => ?_
  cases res with
  | error e =>
      cases e with
      | addrInUse => exact Quiet.pure _
      | acces => exact Quiet.halt (h.die _ (by decide))
      | other => exact Quiet.halt (h.die _ (by decide))
  | ok u => exact Quiet.bind confined_modifySock fun _ => Quiet.pure _

theorem confined_bindAndListen {fd : Fd} {addr : SockAddr} :
    Confined φ calls halts (bindAndListen k fd addr) := by
  refine Quiet.bind (confined_bind h) fun bound => ?_
  cases bound with
  | error e => exact Quiet.pure _
  | ok u => exact confined_listen h

theorem confined_accept {chk : M W Unit} {fd : Fd} (hchk : Confined φ calls halts chk) :
    Confined φ calls halts (vsfSysutilAcceptTimeout k chk fd) := by
  refine Quiet.bind (h.sys trivial) fun res => ?_
  cases res with
  | none => exact Quiet.bind hchk fun _ => Quiet.pure _
  | some addr =>
      exact Quiet.bind confined_newFd fun _ => Quiet.bind confined_modifySock fun _ =>
        Quiet.bind hchk fun _ => Quiet.pure _

theorem confined_connect {chk : M W Unit} {fd : Fd} {addr : SockAddr}
    (hchk : Confined φ calls halts chk) :
    Confined φ calls halts (vsfSysutilConnectTimeout k chk fd addr) :=
  Quiet.bind (h.sys trivial) fun _ =>
    Quiet.bind (Quiet.whenever confined_modifySock) fun _ => Quiet.bind hchk fun _ => Quiet.pure _

/-! ## The operations -/

theorem confined_bindLoop {chk : M W Unit} {fd : Fd} {localAddr : SockAddr} {port : UInt16}
    (hchk : Confined φ calls halts chk) (n : Nat) :
    Confined φ calls halts (bindLoop k chk fd localAddr port n) := by
  induction n with
  | zero => exact Quiet.pure ()
  | succ n ih =>
      refine Quiet.bind (confined_bind h) fun res => ?_
      cases res with
      | ok u => exact Quiet.pure ()
      | error e =>
          refine Quiet.ite (Quiet.halt (h.die _ (by decide))) ?_
          exact Quiet.bind (h.sys trivial) fun _ =>
            Quiet.bind (h.sys trivial) fun _ => Quiet.bind hchk fun _ => ih

theorem confined_getFtpPortSock {chk : M W Unit} {p : Proc} {remotePort : UInt16}
    {usePortSockaddr : Bool} (hchk : Confined φ calls halts chk)
    (hrefuse : halts (.die "Illegal port request")) (htrap : halts .trap) :
    Confined φ calls halts (vsfPrivopGetFtpPortSock cfg k chk p remotePort usePortSockaddr) := by
  refine Quiet.bind (confined_getSess _) fun sess => Quiet.bind (confined_getSock h) fun fd => ?_
  refine Quiet.ite (Quiet.halt (h.die _ (by decide))) (Quiet.ite (Quiet.halt hrefuse) ?_)
  refine Quiet.bind (confined_reuseaddr h) fun _ =>
    Quiet.bind (confined_bindLoop h hchk _) fun _ => ?_
  refine Quiet.bind (Quiet.ite ?_ ?_) fun _ => Quiet.bind (confined_connect h hchk) fun _ => ?_
  · cases sess.portSockaddr with
    | none => exact Quiet.halt htrap
    | some addr => exact Quiet.pure addr
  · exact Quiet.bind (Quiet.modify fun _ => by cases p <;> rfl) fun _ => Quiet.pure _
  · exact Quiet.ite (Quiet.pure _) (Quiet.bind (confined_close h hchk) fun _ => Quiet.pure _)

theorem confined_pasvCleanup {chk : M W Unit} {p : Proc} (hchk : Confined φ calls halts chk) :
    Confined φ calls halts (vsfPrivopPasvCleanup k chk p) :=
  Quiet.bind (confined_getSess _) fun _ => Quiet.ite
    (Quiet.bind (confined_close h hchk) fun _ => confined_setListener) (Quiet.pure ())

theorem confined_pasvListenLoop {chk : M W Unit} {p : Proc} {localAddr : SockAddr}
    (hchk : Confined φ calls halts chk) (n : Nat) :
    Confined φ calls halts (pasvListenLoop cfg k chk p localAddr n) := by
  induction n with
  | zero => exact Quiet.halt (h.die _ (by decide))
  | succ n ih =>
      refine Quiet.bind (h.sys trivial) fun hi =>
        Quiet.bind (h.sys trivial) fun lo => Quiet.bind (confined_getSock h) fun fd =>
          Quiet.bind confined_setListener fun _ => Quiet.bind (confined_reuseaddr h) fun _ =>
            Quiet.bind (confined_bindAndListen h) fun res => ?_
      have hagain : Confined φ calls halts (do
          vsfSysutilClose k chk fd
          modifySess p fun sess => { sess with pasvListenFd := -1 }
          pasvListenLoop cfg k chk p localAddr n) :=
        Quiet.bind (confined_close h hchk) fun _ => Quiet.bind confined_setListener fun _ => ih
      cases res with
      | ok u => exact Quiet.pure _
      | error e =>
          cases e with
          | other => exact Quiet.halt (h.die _ (by decide))
          | addrInUse => exact hagain
          | acces => exact hagain

theorem confined_pasvListen {chk : M W Unit} {p : Proc} (hchk : Confined φ calls halts chk) :
    Confined φ calls halts (vsfPrivopPasvListen cfg k chk p) :=
  Quiet.bind (confined_getSess _) fun _ =>
    Quiet.ite (Quiet.halt (h.die _ (by decide))) (confined_pasvListenLoop h hchk _)

theorem confined_acceptPasv {chk : M W Unit} {p : Proc} (hchk : Confined φ calls halts chk) :
    Confined φ calls halts (vsfPrivopAcceptPasv cfg k chk p) := by
  refine Quiet.bind (confined_getSess _) fun _ =>
    Quiet.ite (Quiet.halt (h.die _ (by decide))) (Quiet.bind (confined_accept h hchk) fun res => ?_)
  cases res with
  | none => exact Quiet.pure _
  | some accepted =>
      exact Quiet.ite (Quiet.bind (confined_close h hchk) fun _ => Quiet.pure _) (Quiet.pure _)

theorem confined_doFileChown {p : Proc} {fd : Fd} :
    Confined φ calls halts (vsfPrivopDoFileChown k p fd) := by
  refine Quiet.bind Quiet.get fun s => ?_
  dsimp only
  cases k.fstat s.world fd with
  | none => exact Quiet.halt (h.die _ (by decide))
  | some statbuf =>
      refine Quiet.ite (Quiet.pure ()) (Quiet.ite (Quiet.halt (h.die _ (by decide))) ?_)
      exact Quiet.bind (h.sys trivial) fun _ =>
        Quiet.ite (Quiet.pure ()) (Quiet.halt (h.die _ (by decide)))

/-! ## Requests -/

/-- Only the request for a data connection is refused for its port. -/
theorem confined_requestHandler {cmd : UInt8}
    (hcmd : cmd = privSockGetDataSock → halts (.die "Illegal port request") ∧ halts .trap) :
    Confined φ calls halts (requestHandler cfg k cmd) := by
  have hresult (res : UInt8) : Confined φ calls halts (privSockSendResult k .parent res) :=
    confined_privSockWrite h (by decide)
  have hint (n : Int) : Confined φ calls halts (privSockSendInt k .parent n) :=
    confined_privSockWrite h (by decide)
  have hclose (fd : Fd) : Confined φ calls halts (vsfSysutilClose k noPending fd) :=
    confined_close h confined_noPending
  refine Quiet.ite ?_ ?_
  · exact Quiet.bind (confined_recvFd h) fun fd => Quiet.bind (confined_doFileChown h) fun _ =>
      Quiet.bind (hclose fd) fun _ => hresult _
  by_cases hsock : cmd = privSockGetDataSock
  · rw [if_pos hsock]
    obtain ⟨hrefuse, htrap⟩ := hcmd hsock
    refine Quiet.bind (confined_getInt h) fun _ =>
      Quiet.bind (confined_getFtpPortSock h confined_noPending hrefuse htrap) fun fd =>
        Quiet.ite (hresult _) ?_
    exact Quiet.bind (hresult _) fun _ => Quiet.bind (confined_sendFd h) fun _ => hclose fd
  rw [if_neg hsock]
  refine Quiet.ite ?_ (Quiet.ite ?_ (Quiet.ite ?_ (Quiet.ite ?_
    (Quiet.halt (h.die _ (by decide))))))
  · exact Quiet.bind (confined_pasvCleanup h confined_noPending) fun _ => hresult _
  · exact Quiet.bind (Quiet.bind (confined_getSess _) fun _ => Quiet.pure _) fun _ => hint _
  · exact Quiet.bind (confined_pasvListen h confined_noPending) fun _ => hint _
  · refine Quiet.bind (confined_acceptPasv h confined_noPending) fun fd => Quiet.ite ?_ ?_
    · exact Quiet.bind (hresult _) fun _ => hint _
    · exact Quiet.bind (hresult _) fun _ => Quiet.bind (confined_sendFd h) fun _ => hclose fd

end

end Vsftpd.Session
