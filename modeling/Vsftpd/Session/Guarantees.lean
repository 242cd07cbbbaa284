import Vsftpd.Session.CommandLoop
import Vsftpd.Session.ParentCalls

/-!
# What every session keeps to

Whatever the configuration, the process model, the client, the file system and the
signals: with whom data connections are made, that no assertion fails, and that the
two processes stay in step.
-/

namespace Vsftpd.Session

open Vsftpd.Lib

variable {W X α : Type} {cfg : Tunables} {k : Kernel W} {base : VsfSession} {φ : W → X}
  {may : SockAddr → Prop} {start s : State W}

/-- What holds of all events, all halts and the end of every run. -/
theorem session_wp (cfg : Tunables) (k : Kernel W) (sess : VsfSession) (world : W) (n : Nat)
    {R : Requirement (Event W) Halt} {Q : Unit → State W → Prop}
    (he : ∀ start e, EventOk cfg k (atLogin cfg sess world).session (fun _ => ()) start e →
      R.event e)
    (hh : ∀ h, Allowed cfg k h → R.halt h)
    (hq : ∀ s, LoopInv cfg (atLogin cfg sess world).session (fun _ => ()) AnyAddr s → Q () s) :
    wp R (processPostLogin cfg k n) Q (atLogin cfg sess world) := by
  have hrun := processPostLogin_wp (keepsFs_unit k)
    (loopInv_atLogin cfg sess world fun _ => ()) n fun _ _ _ _ => storesOnly_anyAddr
  refine (hrun.mono fun _ s hs => hq s hs).weaken (fun e hevent => ?_) fun h hh' => hh h hh'.1
  obtain ⟨start, hok⟩ := hevent
  exact he start e hok

/-! ## Data connections -/

/-- The socket is connected to the client, on a free port, or was accepted from it. -/
def WithClient (sess : VsfSession) (sock : Sock) : Prop :=
  (∃ addr, sock.connectedTo = some addr ∧ RemoteTarget sess addr) ∨
    ∃ listener peer, sock.acceptedFrom = some (listener, peer) ∧
      vsfSysutilSockaddrAddrEqual sess.remoteAddr peer = true

/-- Connections are made to the client only, and a transfer is over a connection with it. -/
def NoBounce (sess : VsfSession) (e : Event W) : Prop :=
  match e.call with
  | .connect _ addr => RemoteTarget sess addr
  | .transferFile remoteFd _ _ _ => WithClient sess (e.before.socks remoteFd)
  | .transferDir _ _ _ _ isControl _ =>
    isControl = false → WithClient sess (e.before.socks e.before.session.dataFd)
  | _ => True

theorem DataConn.withClient {sock : Sock} (h : DataConn cfg base sock)
    (hport : cfg.portPromiscuous = false) (hpasv : cfg.pasvPromiscuous = false) :
    WithClient base sock := by
  rcases h with ⟨addr, hconn, htarget⟩ | ⟨listener, peer, haccepted, hpeer⟩
  · exact .inl ⟨addr, hconn, htarget hport⟩
  · exact .inr ⟨listener, peer, haccepted, hpeer hpasv⟩

theorem EventInv.withClient (h : EventInv cfg base (s.core φ)) (hfd : s.session.dataFd ≠ -1)
    (hport : cfg.portPromiscuous = false) (hpasv : cfg.pasvPromiscuous = false) :
    WithClient base (s.socks s.session.dataFd) := by
  have hconn : DataConn cfg base (s.core φ).dataSock := h.dataConn hfd
  have hsock : (s.core φ).dataSock = s.socks s.session.dataFd := if_neg hfd
  rw [hsock] at hconn
  exact hconn.withClient hport hpasv

theorem EventOk.noBounce {e : Event W} (h : EventOk cfg k base φ start e)
    (hport : cfg.portPromiscuous = false) (hpasv : cfg.pasvPromiscuous = false) :
    NoBounce base e := by
  obtain ⟨call, s⟩ := e
  have hissued := h.issued
  cases call with
  | connect fd addr => exact hissued hport
  | transferFile remoteFd fileFd isRecv isAscii =>
      have hremote : remoteFd = s.session.dataFd := hissued.1
      have hfd : s.session.dataFd ≠ -1 := by
        rw [← hremote]
        exact hissued.2.1
      have hwith := h.inv.withClient hfd hport hpasv
      rw [← hremote] at hwith
      exact hwith
  | transferDir fd dir option filter isControl fullDetails =>
      exact fun hdata => h.inv.withClient (hissued.1 hdata) hport hpasv
  | _ => trivial

/-- A client can have data sent to nobody but itself. -/
theorem processPostLogin_noBounce (cfg : Tunables) (k : Kernel W) (sess : VsfSession) (world : W)
    (n : Nat) (hport : cfg.portPromiscuous = false) (hpasv : cfg.pasvPromiscuous = false) :
    wp ⟨NoBounce sess, fun _ => True⟩ (processPostLogin cfg k n)
      (fun _ s => ∀ addr, s.session.portSockaddr = some addr → RemoteTarget sess addr)
      (atLogin cfg sess world) := by
  apply session_wp
  · intro start e hok
    have hevent := hok.noBounce hport hpasv
    unfold NoBounce at hevent ⊢
    exact hevent
  · exact fun _ _ => trivial
  · exact fun s hs addr haddr => hs.settled.portOk addr haddr hport

/-! ### A client that follows a script -/

/-- What a client sends, the directory that its session is in, and the files. -/
structure Script where
  lines : List Bytes
  cwd : Bytes := [slash]
  files : List Bytes := []

def Script.path (w : Script) (name : Bytes) : Bytes := prependPathToFilename w.cwd name

def Script.has (w : Script) (name : Bytes) : Bool := w.path name ∈ w.files

def Script.create (w : Script) (name : Bytes) : Script :=
  if w.has name then w else { w with files := w.path name :: w.files }

def Script.remove (w : Script) (name : Bytes) : Script :=
  { w with files := w.files.erase (w.path name) }

def Script.stat (w : Script) (name : Bytes) : Option Statbuf :=
  if w.has name then some ⟨.regular, true, 0, 0, 0⟩ else none

/-- Every name is a path from the current directory, files are created, renamed and
removed, and every other call succeeds. -/
def scriptKernel : Kernel Script where
  run := fun c w =>
    match c with
    | .recvLine =>
      match w.lines with
      | [] => (.eof, w)
      | text :: rest => (.line text, { w with lines := rest })
    | .chdir path => (true, { w with cwd := w.path path })
    | .open _ ⟨.read, path, _⟩ => (w.has path, w)
    | .open _ ⟨.exclusive, path, _⟩ => (!w.has path, w.create path)
    | .open _ ⟨.create, path, _⟩ => (true, w.create path)
    | .unlink path => (w.has path, w.remove path)
    | .rename src dst => (w.has src, if w.has src then (w.remove src).create dst else w)
    | c => (c.success, w)
  pathEnv := fun w =>
    ⟨fun name => if w.has name then .found (w.path name) else .enoent, w.cwd⟩
  stat := Script.stat
  fstat := fun _ _ => some ⟨.regular, true, 0, 0, 0⟩
  fileread := fun _ _ => []
  getpwnamHomedir := fun _ _ => none
  inetAton := fun _ => none
  mktime := fun _ => 0
  numericDate := fun _ _ => none

def localClient (isAnonymous : Bool) : VsfSession where
  localAddr := .inet inaddrLoopback 21
  remoteAddr := .inet inaddrLoopback 40000
  isAnonymous := isAnonymous

/-- The session of a client that sends `lines`. -/
def scriptLogin (cfg : Tunables) (isAnonymous : Bool) (lines : List String)
    (files : List String) : State Script :=
  atLogin cfg (localClient isAnonymous)
    { lines := lines.map bytes, files := files.map bytes }

/-- The state in which command `i` of a script begins. -/
def scriptStart (cfg : Tunables) (login : State Script) (i : Nat) : State Script :=
  (vsfCmdioGetCmdAndArg cfg scriptKernel (processPostLogin cfg scriptKernel i login).2.1).2.1

theorem eq_scriptStart {cfg : Tunables} {login start : State Script} {i : Nat}
    (h : Begins cfg scriptKernel login i start) : start = scriptStart cfg login i := by
  obtain ⟨top, htop, hread⟩ := h
  have hloop : (processPostLogin cfg scriptKernel i login).2.1 = top := congrArg Prod.fst htop
  unfold scriptStart
  rw [hloop]
  exact (congrArg Prod.fst hread).symm

theorem processPostLogin_noBounce_script :
    wp ⟨NoBounce (localClient true), fun _ => True⟩ (processPostLogin {} scriptKernel 2)
      (fun _ s => ∀ addr, s.session.portSockaddr = some addr →
        RemoteTarget (localClient true) addr)
      (scriptLogin {} true ["PORT 127,0,0,1,8,0", "LIST"] []) :=
  processPostLogin_noBounce {} scriptKernel (localClient true) _ 2 rfl rfl

/-! ## Assertions -/

/-- There is a data connection exactly while the I/O handler is installed. -/
def DataFdLinked (e : Event W) : Prop :=
  e.before.inDataSetup = false → (e.before.session.dataFd ≠ -1 ↔ e.before.ioHandler = true)

/-- No assertion and no endless recursion. -/
def Halt.Asserted : Halt → Prop
  | .bug _ | .recursion => False
  | _ => True

/-- What holds at the top of the loop. -/
structure TopOfLoop (s : State W) : Prop where
  notBoth : s.session.portSockaddr = none ∨
    (s.session.pasvListenFd = -1 ∧ s.parent.pasvListenFd = -1)
  dataFd : s.session.dataFd = -1
  ioHandler : s.ioHandler = false
  logType : s.session.logType = none

theorem LoopInv.topOfLoop (h : LoopInv cfg base φ may s) : TopOfLoop s where
  notBoth := by
    by_cases hport : s.session.portSockaddr = none
    · exact .inl hport
    · exact .inr ⟨h.settled.listenOf hport .session, h.settled.listenOf hport .parent⟩
  dataFd := h.settled.dataFd
  ioHandler := h.settled.ioHandler
  logType := h.logType

theorem processPostLogin_asserted (cfg : Tunables) (k : Kernel W) (sess : VsfSession) (world : W)
    (n : Nat) :
    wp ⟨DataFdLinked, Halt.Asserted⟩ (processPostLogin cfg k n) (fun _ s => TopOfLoop s)
      (atLogin cfg sess world) := by
  apply session_wp
  · exact fun start e hok => hok.inv.linked
  · intro h hallowed
    cases h with
    | bug text => exact hallowed
    | recursion => exact hallowed
    | _ => trivial
  · exact fun s hs => hs.topOfLoop

/-! ## The two processes -/

/-- When the parent is waited for, one whole request is on its way to it and the answers
to those before have all been read. -/
def InStep (cfg : Tunables) (sess : VsfSession) (e : Event W) : Prop :=
  e.call = .waitRequest → e.before.toChild = [] ∧ CompleteRequest cfg sess e.before.toParent

/-- No process ends for a failure of the protocol; without the check of the address the
session makes PORT connections itself, and then itself refuses a reserved port. -/
def KeptStep (cfg : Tunables) (k : Kernel W) : Halt → Prop
  | .die text => text ∈ lockstepFailures → Excused cfg k text
  | _ => True

/-- A program that never ends with the refusal of a port. -/
abbrev NoPortRefusal (m : M W α) : Prop :=
  Quiet (fun _ : State W => ()) (fun _ _ => True) (fun h => h ≠ .die "Illegal port request") m

/-- Every other end is not the refusal. -/
theorem parentOps_noPortRefusal :
    ParentOps k (fun _ => ()) (fun _ => True) fun h => h ≠ .die "Illegal port request" where
  call := fun _ _ => trivial
  keeps := fun _ _ _ => rfl
  die := fun _ htext heq => htext (Halt.die.inj heq)

/-- Only the request for a data connection is refused for its port. -/
theorem noPortRefusal_handler {cmd : UInt8} (h : cmd ≠ privSockGetDataSock) :
    NoPortRefusal (requestHandler cfg k cmd) := by
  have hquiet : Confined (fun _ => ()) (fun _ => True) (fun h => h ≠ .die "Illegal port request")
      (requestHandler cfg k cmd) :=
    confined_requestHandler parentOps_noPortRefusal fun hcmd => absurd hcmd h
  exact fun _ s _ => (hquiet (s.known _) s rfl).mono fun _ _ _ => rfl

/-- What the parent does not do as long as it is not asked for a data connection. -/
def NeverRefusesPort (cfg : Tunables) (k : Kernel W) : Prop :=
  ∀ s : State W, (s.toParent.head?.map ChannelByte.byte) ≠ some privSockGetDataSock →
    wp ⟨fun _ => True, fun h => h ≠ .die "Illegal port request"⟩ (processPostLoginReq cfg k)
      (fun _ _ => True) s

theorem neverRefusesPort (cfg : Tunables) (k : Kernel W) : NeverRefusesPort cfg k := by
  intro s hhead
  rw [processPostLoginReq, wp_bind, wp_sys]
  refine ⟨trivial, ?_⟩
  rw [wp_bind]
  refine privSockGetByte_wp (fun _ heq => absurd (Halt.die.inj heq) (by decide)) fun b bs hin => ?_
  have hcmd : b.byte ≠ privSockGetDataSock := by
    intro heq
    apply hhead
    have hqueue : s.toParent = b :: bs := hin
    rw [hqueue, ← heq]
    rfl
  have hquiet : NoPortRefusal (requestHandler cfg k b.byte) := noPortRefusal_handler hcmd
  exact hquiet.wp (fun _ _ => trivial) (fun _ hh => hh) fun _ _ _ => trivial

theorem processPostLogin_inStep (cfg : Tunables) (k : Kernel W) (sess : VsfSession) (world : W)
    (n : Nat) :
    wp ⟨InStep cfg (atLogin cfg sess world).session, KeptStep cfg k⟩ (processPostLogin cfg k n)
        (fun _ s => s.toParent = [] ∧ s.toChild = []) (atLogin cfg sess world) ∧
      NeverRefusesPort cfg k := by
  refine ⟨?_, neverRefusesPort cfg k⟩
  apply session_wp
  · intro start e hok hcall
    have hissued := hok.issued
    unfold Issued at hissued
    rw [hcall] at hissued
    exact hissued
  · intro h hallowed
    cases h with
    | die text => exact hallowed
    | _ => trivial
  · exact fun s hs => ⟨hs.settled.toParent, hs.settled.toChild⟩

end Vsftpd.Session
