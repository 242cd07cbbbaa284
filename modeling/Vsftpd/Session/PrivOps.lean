import Vsftpd.Session.PrivSock

/-!
# The privileged operations

`privops.c`, and the socket functions of `sysutil.c` it is made of.  In the
one-process model they run on the session's own data, in the two-process model on
the parent's copy; `chk` is the check for pending actions of the process they run in.
-/

namespace Vsftpd.Session

open Vsftpd.Lib

variable {W : Type}

/-! ## Sockets -/

def vsfSysutilGetSock (k : Kernel W) (ipv6 : Bool) : M W Fd := do
  let ok ← sys k (.socket ipv6)
  if ok then do
    let fd ← newFd
    modifySock fd fun _ => {}
    pure fd
  else die (if ipv6 then "ipv6 socket" else "socket")

def vsfSysutilGetIpsock (k : Kernel W) (addr : SockAddr) : M W Fd :=
  vsfSysutilGetSock k (vsfSysutilSockaddrIsIpv6 addr)

def vsfSysutilActivateReuseaddr (k : Kernel W) (fd : Fd) : M W Unit := do
  let ok ← sys k (.setsockopt fd)
  if ok then pure () else die "setsockopt: reuseaddr"

def vsfSysutilBind (k : Kernel W) (fd : Fd) (addr : SockAddr) : M W (Except SockError Unit) := do
  let res ← sys k (.bind fd addr)
  match res with
  | .error e => pure (.error e)
  | .ok () => do
    modifySock fd fun sock => { sock with boundTo := some addr }
    pure (.ok ())

def vsfSysutilListen (k : Kernel W) (fd : Fd) : M W (Except SockError Unit) := do
  let res ← sys k (.listen fd)
  match res with
  | .error .addrInUse => pure (.error .addrInUse)
  | .error _ => die "listen"
  | .ok () => do
    modifySock fd fun sock => { sock with listening := true }
    pure (.ok ())

/-- The connection that was accepted, none after a timeout or a failure. -/
def vsfSysutilAcceptTimeout (k : Kernel W) (chk : M W Unit) (fd : Fd) :
    M W (Option (Fd × SockAddr)) := do
  let res ← sys k (.accept fd)
  match res with
  | none => do
    chk
    pure none
  | some addr => do
    let remoteFd ← newFd
    modifySock remoteFd fun _ => { acceptedFrom := some (fd, addr) }
    chk
    pure (some (remoteFd, addr))

def vsfSysutilConnectTimeout (k : Kernel W) (chk : M W Unit) (fd : Fd) (addr : SockAddr) :
    M W Bool := do
  let ok ← sys k (.connect fd addr)
  Prog.whenever (ok = true) (modifySock fd fun sock => { sock with connectedTo := some addr })
  chk
  pure ok

def vsfSysutilClose (k : Kernel W) (chk : M W Unit) (fd : Fd) : M W Unit := do
  let ok ← sys k (.close fd)
  modifySock fd fun _ => {}
  chk
  if ok then pure () else die "close"

section
variable (cfg : Tunables) (k : Kernel W) (chk : M W Unit) (p : Proc)

/-- Bind to the local address; an address in use is tried twice. -/
def bindLoop (fd : Fd) (localAddr : SockAddr) (port : UInt16) : Nat → M W Unit
  | 0 => pure ()
  | i + 1 => do
    let addr := vsfSysutilSockaddrSetPort (vsfSysutilSockaddrClone localAddr) port
    let res ← vsfSysutilBind k fd addr
    match res with
    | .ok () => pure ()
    | .error e =>
      if e ≠ .addrInUse ∨ i = 0 then die "vsf_sysutil_bind"
      else do
        let _ ← sys k .getRandomByte
        sys k .sleep
        chk
        bindLoop fd localAddr port i

/-- The stored PORT address, or the remote address with the requested port. -/
def connectAddr (sess : VsfSession) (remotePort : UInt16) (usePortSockaddr : Bool) :
    M W SockAddr :=
  if usePortSockaddr then
    match sess.portSockaddr with
    | none => Prog.halt .trap
    | some addr => pure addr
  else do
    modifySess p fun sess =>
      { sess with remoteAddr := vsfSysutilSockaddrSetPort sess.remoteAddr remotePort }
    pure (vsfSysutilSockaddrSetPort sess.remoteAddr remotePort)

def vsfPrivopGetFtpPortSock (remotePort : UInt16) (usePortSockaddr : Bool) : M W Fd := do
  let sess ← getSess p
  let fd ← vsfSysutilGetIpsock k sess.localAddr
  if sess.pasvListenFd ≠ -1 then die "listed fd is active?"
  else if vsfSysutilIsPortReserved remotePort then die "Illegal port request"
  else do
    let port := if cfg.connectFromPort20 then UInt16.ofNat cfg.ftpDataPort else 0
    vsfSysutilActivateReuseaddr k fd
    bindLoop k chk fd sess.localAddr port 2
    let connectTo ← connectAddr p sess remotePort usePortSockaddr
    let ok ← vsfSysutilConnectTimeout k chk fd connectTo
    if ok then pure fd
    else do
      vsfSysutilClose k chk fd
      pure (-1)

def vsfPrivopPasvCleanup : M W Unit := do
  let sess ← getSess p
  if sess.pasvListenFd ≠ -1 then do
    vsfSysutilClose k chk sess.pasvListenFd
    modifySess p fun sess => { sess with pasvListenFd := -1 }
  else pure ()

def vsfPrivopPasvActive : M W Bool := do
  let sess ← getSess p
  pure (sess.pasvListenFd ≠ -1)

def pasvMinPort : Nat :=
  if cfg.pasvMinPort > 1024 ∧ cfg.pasvMinPort ≤ 65535 then cfg.pasvMinPort else 1024

def pasvMaxPort : Nat :=
  if cfg.pasvMaxPort ≥ pasvMinPort cfg ∧ cfg.pasvMaxPort < 65535 then cfg.pasvMaxPort else 65535

/-- The port that two random bytes choose; the source computes it in `double`s,
which hold every value that occurs. -/
def scaledPort (hi lo : UInt8) : UInt16 :=
  UInt16.ofNat (pasvMinPort cfg +
    (hi.toNat * 256 + lo.toNat) * (pasvMaxPort cfg - pasvMinPort cfg + 1) / 65536)

def bindAndListen (fd : Fd) (addr : SockAddr) : M W (Except SockError Unit) := do
  let bound ← vsfSysutilBind k fd addr
  match bound with
  | .error e => pure (.error e)
  | .ok () => vsfSysutilListen k fd

/-- `n` attempts are left. -/
def pasvListenLoop (localAddr : SockAddr) : Nat → M W UInt16
  | 0 => die "vsf_sysutil_bind"
  | n + 1 => do
    let hi ← sys k .getRandomByte
    let lo ← sys k .getRandomByte
    let port := scaledPort cfg hi lo
    let fd ← vsfSysutilGetSock k (vsfSysutilSockaddrIsIpv6 localAddr)
    modifySess p fun sess => { sess with pasvListenFd := fd }
    vsfSysutilActivateReuseaddr k fd
    let addr := vsfSysutilSockaddrSetPort (vsfSysutilSockaddrClone localAddr) port
    let res ← bindAndListen k fd addr
    match res with
    | .ok () => pure port
    | .error .other => die "vsf_sysutil_bind / listen"
    | .error _ => do
      vsfSysutilClose k chk fd
      modifySess p fun sess => { sess with pasvListenFd := -1 }
      pasvListenLoop localAddr n

def vsfPrivopPasvListen : M W UInt16 := do
  let sess ← getSess p
  if sess.pasvListenFd ≠ -1 then die "listed fd already active"
  else pasvListenLoop cfg k chk p sess.localAddr 9

/-- The connection's descriptor, -1 without a connection and -2 after one from
another address. -/
def vsfPrivopAcceptPasv : M W Fd := do
  let sess ← getSess p
  if sess.pasvListenFd = -1 then die "listed fd not active"
  else do
    let accepted ← vsfSysutilAcceptTimeout k chk sess.pasvListenFd
    match accepted with
    | none => pure (-1)
    | some (remoteFd, addr) =>
      if !cfg.pasvPromiscuous ∧ !vsfSysutilSockaddrAddrEqual sess.remoteAddr addr then do
        vsfSysutilClose k chk remoteFd
        pure (-2)
      else pure remoteFd

/-- Not a regular file of the anonymous or the guest user. -/
def chownRefused (sess : VsfSession) (statbuf : Statbuf) : Prop :=
  sess.anonUploadChownUid = -1 ∨ statbuf.kind ≠ .regular ∨
    (statbuf.uid ≠ sess.anonFtpUid ∧ statbuf.uid ≠ sess.guestUserUid)

instance (sess : VsfSession) (statbuf : Statbuf) : Decidable (chownRefused sess statbuf) := by
  unfold chownRefused
  infer_instance

def vsfPrivopDoFileChown (fd : Fd) : M W Unit := do
  let s ← Prog.get
  let sess := s.sess p
  match k.fstat s.world fd with
  | none => die "fstat"
  | some statbuf =>
    if statbuf.uid = sess.anonUploadChownUid then pure ()
    else if chownRefused sess statbuf then die "invalid fd in cmd_process_chown"
    else do
      let ok ← sys k (.fchown fd sess.anonUploadChownUid)
      if ok then pure () else die "fchown"

end

end Vsftpd.Session
