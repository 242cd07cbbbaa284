import Vsftpd.Str

/-!
# Socket addresses

`struct vsf_sysutil_sockaddr` of the two families that the program lets in.
-/

namespace Vsftpd

/-- The four bytes of a `struct in_addr`. -/
abbrev InAddr := {b : Bytes // b.length = 4}

def inaddrLoopback : InAddr := ⟨[127, 0, 0, 1], rfl⟩

/-- The sixteen bytes of a `struct in6_addr`. -/
abbrev In6Addr := {b : Bytes // b.length = 16}

inductive SockAddr where
  | inet (sinAddr : InAddr) (sinPort : UInt16)
  | inet6 (sin6Addr : In6Addr) (sin6Port : UInt16) (sin6ScopeId : UInt32)
  deriving DecidableEq

def v4MappedPrefix : Bytes := [0, 0, 0, 0, 0, 0, 0, 0, 0, 0, 0xFF, 0xFF]

/-- The IPv4 address that an IPv4-mapped IPv6 address holds. -/
def vsfSysutilSockaddrIpv6V4 : SockAddr → Option InAddr
  | .inet _ _ => none
  | .inet6 a _ _ =>
    if a.1.take 12 = v4MappedPrefix then
      some ⟨a.1.drop 12, by rw [List.length_drop, a.2]⟩
    else none

def v4Mapped (a : InAddr) : In6Addr :=
  ⟨v4MappedPrefix ++ a.1, by rw [List.length_append, a.2]; rfl⟩

def vsfSysutilSockaddrIpv4V6 : SockAddr → Option In6Addr
  | .inet a _ => some (v4Mapped a)
  | .inet6 _ _ _ => none

def vsfSysutilSockaddrAddrEqual (p1 p2 : SockAddr) : Bool :=
  match p1, p2 with
  | .inet a _, .inet6 _ _ _ => vsfSysutilSockaddrIpv6V4 p2 = some a
  | .inet6 _ _ _, .inet a _ => vsfSysutilSockaddrIpv6V4 p1 = some a
  | .inet a _, .inet b _ => a = b
  | .inet6 a _ _, .inet6 b _ _ => a = b

def vsfSysutilSockaddrIsIpv6 : SockAddr → Bool
  | .inet _ _ => false
  | .inet6 _ _ _ => true

/-- The address without its port. -/
def vsfSysutilSockaddrClone : SockAddr → SockAddr
  | .inet a _ => .inet a 0
  | .inet6 a _ scope => .inet6 a 0 scope

def vsfSysutilSockaddrSetIpv4addr (p : SockAddr) (raw : InAddr) : SockAddr :=
  match p with
  | .inet _ port => .inet raw port
  | .inet6 _ port scope => .inet6 (v4Mapped raw) port scope

/-- On an IPv4 address this is a `bug`. -/
def vsfSysutilSockaddrSetIpv6addr (p : SockAddr) (raw : In6Addr) : Option SockAddr :=
  match p with
  | .inet _ _ => none
  | .inet6 _ port scope => some (.inet6 raw port scope)

def vsfSysutilSockaddrGetPort : SockAddr → UInt16
  | .inet _ port => port
  | .inet6 _ port _ => port

def vsfSysutilSockaddrSetPort (p : SockAddr) (port : UInt16) : SockAddr :=
  match p with
  | .inet a _ => .inet a port
  | .inet6 a _ scope => .inet6 a port scope

def ipportReserved : UInt16 := 1024

def vsfSysutilIsPortReserved (port : UInt16) : Bool := port < ipportReserved

/-! ## Facts about them -/

@[simp] theorem getPort_setPort (p : SockAddr) (port : UInt16) :
    vsfSysutilSockaddrGetPort (vsfSysutilSockaddrSetPort p port) = port := by
  cases p <;> rfl

@[simp] theorem addrEqual_setPort_right (p q : SockAddr) (port : UInt16) :
    vsfSysutilSockaddrAddrEqual p (vsfSysutilSockaddrSetPort q port) =
      vsfSysutilSockaddrAddrEqual p q := by
  cases p <;> cases q <;> rfl

@[simp] theorem addrEqual_setPort_left (p q : SockAddr) (port : UInt16) :
    vsfSysutilSockaddrAddrEqual (vsfSysutilSockaddrSetPort p port) q =
      vsfSysutilSockaddrAddrEqual p q := by
  cases p <;> cases q <;> rfl

@[simp] theorem addrEqual_clone_right (p q : SockAddr) :
    vsfSysutilSockaddrAddrEqual p (vsfSysutilSockaddrClone q) =
      vsfSysutilSockaddrAddrEqual p q := by
  cases p <;> cases q <;> rfl

@[simp] theorem addrEqual_clone_left (p q : SockAddr) :
    vsfSysutilSockaddrAddrEqual (vsfSysutilSockaddrClone p) q =
      vsfSysutilSockaddrAddrEqual p q := by
  cases p <;> cases q <;> rfl

@[simp] theorem clone_setPort (p : SockAddr) (port : UInt16) :
    vsfSysutilSockaddrClone (vsfSysutilSockaddrSetPort p port) = vsfSysutilSockaddrClone p := by
  cases p <;> rfl

@[simp] theorem addrEqual_self (p : SockAddr) : vsfSysutilSockaddrAddrEqual p p = true := by
  cases p <;> simp [vsfSysutilSockaddrAddrEqual]

theorem not_reserved_iff {port : UInt16} :
    vsfSysutilIsPortReserved port = false ↔ 1024 ≤ port.toNat := by
  rw [vsfSysutilIsPortReserved, decide_eq_false_iff_not, ipportReserved, UInt16.not_lt,
    UInt16.le_iff_toNat_le]
  rfl

end Vsftpd
