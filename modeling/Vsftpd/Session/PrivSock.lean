import Vsftpd.Session.State

/-!
# The channel between the processes

`privsock.c`.  A process writes to the other's incoming bytes.  A read that finds
fewer bytes than it waits for is the end of the stream.
-/

namespace Vsftpd.Session

open Vsftpd.Lib

variable {W : Type}

def privSockLogin : UInt8 := 1
def privSockChown : UInt8 := 2
def privSockGetDataSock : UInt8 := 3
def privSockPasvCleanup : UInt8 := 10
def privSockPasvActive : UInt8 := 11
def privSockPasvListen : UInt8 := 12
def privSockPasvAccept : UInt8 := 13
def privSockResultOk : UInt8 := 1
def privSockResultBad : UInt8 := 2

/-- The four bytes of an `int`. -/
def intBytes (n : Int) : Bytes :=
  let u := (n % 2 ^ 32).toNat
  [UInt8.ofNat u, UInt8.ofNat (u / 2 ^ 8), UInt8.ofNat (u / 2 ^ 16), UInt8.ofNat (u / 2 ^ 24)]

/-- The `int` that four bytes are. -/
def bytesInt (b0 b1 b2 b3 : UInt8) : Int :=
  let u : Nat := b0.toNat + b1.toNat * 2 ^ 8 + b2.toNat * 2 ^ 16 + b3.toNat * 2 ^ 24
  if u < 2 ^ 31 then (u : Int) else (u : Int) - 2 ^ 32

def State.incoming (s : State W) : Proc → List ChannelByte
  | .session => s.toChild
  | .parent => s.toParent

def State.setIncoming (s : State W) (p : Proc) (bs : List ChannelByte) : State W :=
  match p with
  | .session => { s with toChild := bs }
  | .parent => { s with toParent := bs }

def Proc.other : Proc → Proc
  | .session => .parent
  | .parent => .session

/-- `vsf_sysutil_write_loop` on the channel. -/
def privSockWrite (k : Kernel W) (p : Proc) (bs : Bytes) (failure : String) : M W Unit := do
  let ok ← sys k (.privWrite bs)
  if ok then
    Prog.modify fun s =>
      s.setIncoming p.other (s.incoming p.other ++ bs.map fun b => ⟨b, none⟩)
  else die failure

def privSockSendCmd (k : Kernel W) (p : Proc) (cmd : UInt8) : M W Unit :=
  privSockWrite k p [cmd] "priv_sock_send_cmd"

def privSockSendResult (k : Kernel W) (p : Proc) (res : UInt8) : M W Unit :=
  privSockWrite k p [res] "priv_sock_send_result"

def privSockSendInt (k : Kernel W) (p : Proc) (n : Int) : M W Unit :=
  privSockWrite k p (intBytes n) "priv_sock_send_int"

/-- The next byte; descriptors passed along with bytes read like this are dropped. -/
def privSockGetByte (p : Proc) (failure : String) : M W UInt8 := do
  let s ← Prog.get
  match s.incoming p with
  | [] => die failure
  | b :: bs => do
    Prog.modify fun s => s.setIncoming p bs
    pure b.byte

def privSockGetCmd (p : Proc) : M W UInt8 := privSockGetByte p "priv_sock_get_cmd"

def privSockGetResult (p : Proc) : M W UInt8 := privSockGetByte p "priv_sock_get_result"

def privSockGetInt (p : Proc) : M W Int := do
  let s ← Prog.get
  match s.incoming p with
  | b0 :: b1 :: b2 :: b3 :: bs => do
    Prog.modify fun s => s.setIncoming p bs
    pure (bytesInt b0.byte b1.byte b2.byte b3.byte)
  | _ => die "priv_sock_get_int"

def privSockSendFd (k : Kernel W) (p : Proc) (fd : Fd) : M W Unit := do
  let s ← Prog.get
  let ok ← sys k (.sendFd fd)
  if ok then
    Prog.modify fun s' =>
      s'.setIncoming p.other (s'.incoming p.other ++ [⟨0, some ⟨fd.toNat, s.socks fd⟩⟩])
  else die "sendmsg"

def privSockRecvFd (k : Kernel W) (p : Proc) : M W Fd := do
  let s ← Prog.get
  match s.incoming p with
  | [] => die "recvmsg"
  | ⟨_, none⟩ :: _ => die "no passed fd"
  | ⟨_, some passed⟩ :: bs => do
    Prog.modify fun s => s.setIncoming p bs
    let fd ← newFd
    modifySock fd fun _ => passed.sock
    sys k (.recvFd fd passed.file)
    pure fd

/-! ## Runs -/

section
variable {R : Requirement (Event W) Halt} {k : Kernel W} {p : Proc} {s : State W}

theorem privSockGetByte_wp {failure : String} {Q : UInt8 → State W → Prop}
    (hempty : s.incoming p = [] → R.halt (.die failure))
    (hq : ∀ b bs, s.incoming p = b :: bs → Q b.byte (s.setIncoming p bs)) :
    wp R (privSockGetByte p failure) Q s := by
  rw [privSockGetByte, wp_bind, wp_get]
  match hin : s.incoming p with
  | [] => exact wp_die.mpr (hempty hin)
  | b :: bs =>
      show wp _ (_ >>= _) _ _
      rw [wp_bind, wp_modify, wp_pure]
      exact hq b bs hin

end

end Vsftpd.Session
