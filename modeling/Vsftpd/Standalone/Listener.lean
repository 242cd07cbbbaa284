import Vsftpd.Hash
import Vsftpd.Lib.ExceptRules

/-!
# The standalone listener

`vsf_standalone_main` as a state machine: the accept loop, the signal handler
at the points where `vsf_sysutil_check_pending_actions` may run it, and the
processes the kernel keeps for the listener.  Everything between two such
points is one step.
-/

namespace Vsftpd.Standalone

abbrev Pid := Nat

/-- The raw bytes of a client's address, `s_ipaddr_size` of them. -/
abbrev RawAddr := List UInt8

def hashIpLoop : List UInt8 → UInt32 → Nat → UInt32
  | [], val, _ => val
  | b :: rest, val, shift =>
    hashIpLoop rest (val ^^^ (b.toUInt32 <<< UInt32.ofNat shift))
      (if shift < 8 then 24 else shift - 8)

def hashIp (buckets : Nat) (key : RawAddr) : Nat := (hashIpLoop key 0 24).toNat % buckets

def hashPid (buckets : Nat) (key : Pid) : Nat := key % buckets

inductive Fault where
  | bug (text : String)
  | nullDeref
  | die (text : String)
  deriving DecidableEq, Repr

def orBug {α : Type} : Except String α → Except Fault α
  | .error text => .error (.bug text)
  | .ok a => .ok a

@[simp] theorem orBug_ok {α : Type} (a : α) : orBug (.ok a) = .ok a := rfl

/-! ## The per-address table -/

/-- `handle_ip_count`: the new count and the table. -/
def handleIpCount (h : Hash RawAddr Nat) (ipaddr : RawAddr) :
    Except Fault (Nat × Hash RawAddr Nat) := do
  match ← orBug (hashLookupEntry h ipaddr) with
  | none =>
    let h ← orBug (hashAddEntry h ipaddr 1)
    return (1, h)
  | some count =>
    let h ← orBug (hashWriteValue h ipaddr (count + 1))
    return (count + 1, h)

/-- `drop_ip_count`; the hash function reads through the key, which the handler
takes from a lookup that may have failed. -/
def dropIpCount (h : Hash RawAddr Nat) : Option RawAddr → Except Fault (Hash RawAddr Nat)
  | none => .error .nullDeref
  | some rawAddr => do
    match ← orBug (hashLookupEntry h rawAddr) with
    | none => .error (.bug "IP address missing from hash")
    | some 0 => .error (.bug "zero count for IP address")
    | some (count + 1) =>
      let h ← orBug (hashWriteValue h rawAddr count)
      if count = 0 then orBug (hashFreeEntry h rawAddr) else return h

/-! ## The state -/

/-- `struct vsf_client_launch`. -/
structure ClientLaunch where
  numChildren : Nat
  numThisIp : Nat
  deriving DecidableEq, Repr

/-- A child the listener has not reaped.  The last two fields record, for the
statements below, how many such children there were when it was forked, itself
included. -/
structure Child where
  pid : Pid
  addr : RawAddr
  launch : ClientLaunch
  exited : Bool
  liveAtFork : Nat
  liveThisIpAtFork : Nat
  deriving DecidableEq, Repr

inductive Pc where
  /-- In `accept`. -/
  | accept
  /-- `accept` has returned; pending signals are looked at. -/
  | accepted (client : Option RawAddr)
  /-- In `vsf_sysutil_close(new_client_sock)` after the fork. -/
  | closing (addr : RawAddr) (newChild : Option Pid)
  deriving DecidableEq, Repr

structure State where
  sChildren : Nat
  ipCountHash : Hash RawAddr Nat
  pidIpHash : Hash Pid RawAddr
  children : List Child
  pc : Pc
  /-- `handle_sigchld` is running. -/
  inHandler : Bool

def State.init : State where
  sChildren := 0
  ipCountHash := hashAlloc 256 hashIp
  pidIpHash := hashAlloc 256 hashPid
  children := []
  pc := .accept
  inHandler := false

/-! ## The steps -/

inductive Action where
  | childExits (pid : Pid)
  | acceptReturns (client : Option RawAddr)
  /-- A pending `SIGCHLD` is handled: after `accept`, or after a `close` that
  was interrupted. -/
  | handlerStarts
  | waitpidReturns (pid : Option Pid)
  | waitpidFails
  /-- The listener goes on to its fork, which returns `newChild`. -/
  | proceeds (newChild : Option Pid)
  | closeReturns
  | closeFails
  deriving DecidableEq, Repr

/-- One turn of the loop in `handle_sigchld`, for a child that `waitpid` returned. -/
def reapOne (s : State) (pid : Pid) : Except Fault State := do
  let addr ← orBug (hashLookupEntry s.pidIpHash pid)
  let ipCountHash ← dropIpCount s.ipCountHash addr
  let pidIpHash ← orBug (hashFreeEntry s.pidIpHash pid)
  return { s with
    sChildren := s.sChildren - 1
    ipCountHash := ipCountHash
    pidIpHash := pidIpHash
    children := s.children.filter fun c => c.pid ≠ pid }

/-- From the return of `accept` through the fork. -/
def launchChild (s : State) (addr : RawAddr) (newChild : Option Pid) : Except Fault State := do
  let numChildren := s.sChildren + 1
  let (numThisIp, ipCountHash) ← handleIpCount s.ipCountHash addr
  let s := { s with
    sChildren := numChildren
    ipCountHash := ipCountHash
    pc := Pc.closing addr newChild }
  match newChild with
  | none => return s
  | some pid =>
    let child : Child :=
      { pid := pid
        addr := addr
        launch := { numChildren := numChildren, numThisIp := numThisIp }
        exited := false
        liveAtFork := s.children.length + 1
        liveThisIpAtFork := (s.children.map Child.addr).count addr + 1 }
    return { s with children := child :: s.children }

/-- After the close: record the child, or undo the accounting of a failed fork. -/
def afterClose (s : State) (addr : RawAddr) : Option Pid → Except Fault State
  | some pid => do
    let pidIpHash ← orBug (hashAddEntry s.pidIpHash pid addr)
    return { s with pidIpHash := pidIpHash, pc := .accept }
  | none => do
    let ipCountHash ← dropIpCount s.ipCountHash (some addr)
    return { s with sChildren := s.sChildren - 1, ipCountHash := ipCountHash, pc := .accept }

def markExited (pid : Pid) (c : Child) : Child :=
  if c.pid = pid then { c with exited := true } else c

/-- `none` when the action cannot happen in the state. -/
def step (s : State) : Action → Option (Except Fault State)
  | .childExits pid =>
    if ∃ c ∈ s.children, c.pid = pid ∧ c.exited = false then
      some (.ok { s with children := s.children.map (markExited pid) })
    else none
  | .acceptReturns client =>
    if s.pc = .accept then some (.ok { s with pc := .accepted client }) else none
  | .handlerStarts =>
    if s.pc ≠ .accept ∧ s.inHandler = false then some (.ok { s with inHandler := true }) else none
  | .waitpidReturns none =>
    if s.inHandler ∧ ∀ c ∈ s.children, c.exited = false then
      some (.ok { s with inHandler := false })
    else none
  | .waitpidReturns (some pid) =>
    if s.inHandler ∧ ∃ c ∈ s.children, c.pid = pid ∧ c.exited then some (reapOne s pid) else none
  | .waitpidFails => if s.inHandler then some (.error (.die "waitpid")) else none
  | .proceeds newChild =>
    match s.pc, s.inHandler with
    | .accepted none, false => some (.ok { s with pc := .accept })
    | .accepted (some addr), false =>
      -- `fork` never returns the pid of a child that is still to be reaped
      if ∀ pid ∈ newChild, 0 < pid ∧ ∀ c ∈ s.children, c.pid ≠ pid then
        some (launchChild s addr newChild)
      else none
    | _, _ => none
  | .closeReturns =>
    match s.pc, s.inHandler with
    | .closing addr newChild, false => some (afterClose s addr newChild)
    | _, _ => none
  | .closeFails =>
    match s.pc, s.inHandler with
    | .closing _ _, false => some (.error (.die "close"))
    | _, _ => none

/-- The states of runs in which every step is `allowed`. -/
inductive Reachable (allowed : State → Action → Prop) : Except Fault State → Prop
  | init : Reachable allowed (.ok .init)
  | step {s : State} {a : Action} {r : Except Fault State} (hs : Reachable allowed (.ok s))
      (ha : allowed s a) (hstep : step s a = some r) : Reachable allowed r

/-! ## What the accounting should guarantee -/

/-- What `check_limits` lets through; zero means no limit. -/
def Admitted (maxClients maxPerIp : Nat) (launch : ClientLaunch) : Prop :=
  (maxClients > 0 → launch.numChildren ≤ maxClients) ∧
    (maxPerIp > 0 → launch.numThisIp ≤ maxPerIp)

instance (maxClients maxPerIp : Nat) : DecidablePred (Admitted maxClients maxPerIp) := fun _ =>
  inferInstanceAs (Decidable (_ ∧ _))

def admitted (maxClients maxPerIp : Nat) (cs : List Child) : List Child :=
  cs.filter fun c => Admitted maxClients maxPerIp c.launch

/-- The table entry for a number of children: none for zero. -/
def countEntry (n : Nat) : Option Nat := if n = 0 then none else some n

def State.addrs (s : State) : List RawAddr := s.children.map Child.addr

structure CountsMatch (s : State) : Prop where
  total : s.sChildren = s.children.length
  perIp : ∀ a, s.ipCountHash.get a = countEntry (s.addrs.count a)

structure LimitsKept (maxClients maxPerIp : Nat) (cs : List Child) : Prop where
  notUnderstated : ∀ c ∈ cs,
    c.liveAtFork ≤ c.launch.numChildren ∧ c.liveThisIpAtFork ≤ c.launch.numThisIp
  clients : maxClients > 0 → (admitted maxClients maxPerIp cs).length ≤ maxClients
  perIp : maxPerIp > 0 → ∀ a,
    ((admitted maxClients maxPerIp cs).map Child.addr).count a ≤ maxPerIp

/-- No `bug()` and no null dereference; back at `accept` the counts are those of
the unreaped children; and no limit is exceeded. -/
def AccountingOk (maxClients maxPerIp : Nat) : Except Fault State → Prop
  | .error f => ∃ text, f = .die text
  | .ok s => (s.pc = .accept → CountsMatch s) ∧ LimitsKept maxClients maxPerIp s.children

end Vsftpd.Standalone
