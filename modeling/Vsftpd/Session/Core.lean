import Vsftpd.Session.Dispatch
import Vsftpd.Session.ParentSafety

/-!
# What a run of the session may do

The core of a state is what replies, signals and waiting leave alone.  Around it
stand what must hold at every system call of a command, what a call may be made for,
and which programs leave the core alone.  `φ` is what is known of the file system.
-/

namespace Vsftpd.Session

open Vsftpd.Lib

variable {W X α β : Type}

/-! ## The core of a state -/

/-- The session's data that neither signals nor the connections change. -/
def VsfSession.steady (sess : VsfSession) : VsfSession :=
  { sess with
    idleTimeout := false
    dataTimeout := false
    dataProgress := false
    aborReceived := false
    pasvListenFd := -1
    portSockaddr := none
    dataFd := -1
    dataSsl := false }

/-- The parent's data without its listener and the port it connects to.  The parent
never hears of EPSV ALL. -/
def VsfSession.asParent (sess : VsfSession) : VsfSession :=
  { sess with
    pasvListenFd := -1
    epsvAll := false
    remoteAddr := vsfSysutilSockaddrClone sess.remoteAddr }

@[ext] structure Core (X : Type) where
  steady : VsfSession
  portSockaddr : Option SockAddr
  dataFd : Fd
  dataSock : Sock
  listenFd : Fd
  parentListenFd : Fd
  parent : VsfSession
  toParent : List ChannelByte
  toChild : List ChannelByte
  turn : Proc
  ioHandler : Bool
  inDataSetup : Bool
  files : Fd → Option OpenFile
  fs : X

def State.core (φ : W → X) (s : State W) : Core X where
  steady := s.session.steady
  portSockaddr := s.session.portSockaddr
  dataFd := s.session.dataFd
  dataSock := if s.session.dataFd = -1 then {} else s.socks s.session.dataFd
  listenFd := s.session.pasvListenFd
  parentListenFd := s.parent.pasvListenFd
  parent := s.parent.asParent
  toParent := s.toParent
  toChild := s.toChild
  turn := s.turn
  ioHandler := s.ioHandler
  inDataSetup := s.inDataSetup
  files := s.files
  fs := φ s.world

/-- Who holds the listener. -/
def listenerProc (cfg : Tunables) : Proc := if cfg.oneProcessModel then .session else .parent

def Core.listenOf (c : Core X) : Proc → Fd
  | .session => c.listenFd
  | .parent => c.parentListenFd

def Core.listener (cfg : Tunables) (c : Core X) : Fd := c.listenOf (listenerProc cfg)

/-- There is an endpoint for a transfer. -/
def Active (cfg : Tunables) (c : Core X) : Prop := c.listener cfg ≠ -1 ∨ c.portSockaddr ≠ none

/-! ## The state at a system call -/

/-- A socket that may serve as a data connection. -/
def DataConn (cfg : Tunables) (base : VsfSession) (sock : Sock) : Prop :=
  (∃ addr, sock.connectedTo = some addr ∧
    (cfg.portPromiscuous = false → RemoteTarget base addr)) ∨
  ∃ listener peer, sock.acceptedFrom = some (listener, peer) ∧
    (cfg.pasvPromiscuous = false →
      vsfSysutilSockaddrAddrEqual base.remoteAddr peer = true)

/-- A data connection is there exactly while its handler is installed. -/
structure EventInv (cfg : Tunables) (base : VsfSession) (c : Core X) : Prop where
  linked : c.inDataSetup = false → (c.dataFd ≠ -1 ↔ c.ioHandler = true)
  dataConn : c.dataFd ≠ -1 → DataConn cfg base c.dataSock

/-- No data connection. -/
structure Detached (c : Core X) : Prop where
  dataFd : c.dataFd = -1
  dataSock : c.dataSock = {}
  ioHandler : c.ioHandler = false
  inDataSetup : c.inDataSetup = false

theorem Detached.eventInv {cfg : Tunables} {base : VsfSession} {c : Core X} (h : Detached c) :
    EventInv cfg base c where
  linked := by
    intro _
    rw [h.ioHandler]
    exact ⟨fun hne => absurd h.dataFd hne, fun hio => absurd hio Bool.false_ne_true⟩
  dataConn := fun hne => absurd h.dataFd hne

/-! ## What a call is made for -/

/-- A command that writes: never without `write_enable`, and for an anonymous session
only with the tunable of the command. -/
def WriteGate (cfg : Tunables) (base : VsfSession) (tunable : Bool) : Prop :=
  cfg.writeEnable = true ∧ (base.isAnonymous = true → tunable = true)

/-- The commands that create with `O_EXCL` are uploads, the others that open a file
to write may change one that is there. -/
def OpenGate (cfg : Tunables) (base : VsfSession) : OpenHow → Prop
  | .read => True
  | .exclusive => WriteGate cfg base cfg.anonUploadEnable
  | .create => WriteGate cfg base cfg.anonOtherWriteEnable

/-- The command that a state is about to run. -/
def Runs (cfg : Tunables) (s : State W) (command : Command) : Prop :=
  cmdOk cfg s.session.ftpCmdStr = true ∧ commandFor cfg s.session = command

/-- STOU chooses a name of its own, STOR and APPE do not. -/
def UploadCommand (cfg : Tunables) (isUnique : Bool) (s : State W) : Prop :=
  if isUnique then Runs cfg s .stou else Runs cfg s .stor ∨ Runs cfg s .appe

/-- The name that the upload command of `s` would write to in the world `w`. -/
def uploadNameAt (cfg : Tunables) (k : Kernel W) (s : State W) (w : W) (isUnique : Bool) :
    Option Bytes :=
  uploadName k isUnique
    { s with
      world := w
      session := { s.session with
        ftpArgStr := resolveName cfg k { s with world := w } s.session.ftpArgStr } }

/-- LIST and STAT give details, STAT replies over the control connection. -/
def listCommand (fullDetails statCmd : Bool) : Command :=
  if statCmd then .statFile else if fullDetails then .list else .nlst

/-- A name is given, not only options. -/
def givesName (s : State W) : Bool := !strIsempty (splitListArg s.session.ftpArgStr).2

/-- The name that the listing command of `s` is about in the world `w`. -/
def listNameAt (cfg : Tunables) (k : Kernel W) (s : State W) (w : W) : Bytes :=
  resolveName cfg k { s with world := w } (splitListArg s.session.ftpArgStr).2

/-- STAT shows what begins with a dot. -/
def listOption (statCmd : Bool) (s : State W) : Bytes :=
  (splitListArg s.session.ftpArgStr).1 ++ if statCmd then bytes "a" else []

/-- The owner of an upload is changed. -/
def ChownGate (cfg : Tunables) (base : VsfSession) : Prop :=
  base.isAnonymous = true ∧ cfg.chownUploads = true ∧ cfg.writeEnable = true

/-- The requests that are one byte. -/
def plainRequests : List UInt8 :=
  [privSockPasvCleanup, privSockPasvActive, privSockPasvListen, privSockPasvAccept]

/-- The bytes of one request, nothing missing and nothing left over. -/
inductive CompleteRequest (cfg : Tunables) (base : VsfSession) : List ChannelByte → Prop
  | plain (cmd : UInt8) (h : cmd ∈ plainRequests) : CompleteRequest cfg base [⟨cmd, none⟩]
  | chown (passed : Passed) (h : ChownGate cfg base) :
    CompleteRequest cfg base [⟨privSockChown, none⟩, ⟨0, some passed⟩]
  | getDataSock (port : UInt16) (h : vsfSysutilIsPortReserved port = false)
      (hprom : cfg.portPromiscuous = false) :
    CompleteRequest cfg base
      (⟨privSockGetDataSock, none⟩ :: (intBytes port.toNat).map fun b => ⟨b, none⟩)

section
variable (cfg : Tunables) (k : Kernel W) (base : VsfSession) (φ : W → X) (start : State W)

/-- The upload command that `start` is about to run opens `f` in the world `w`: a transfer
can be made, the name is let through and the call succeeds. -/
structure OpensUpload (fd : Fd) (f : OpenFile) (w : W) : Prop where
  active : Active cfg (start.core φ)
  plain : needsEncryption cfg start.session = false
  command : ∃ isUnique, UploadCommand cfg isUnique start ∧
    uploadNameAt cfg k start w isUnique = some f.path
  writes : f.how ≠ .read
  gate : OpenGate cfg base f.how
  before : φ w = φ start.world
  allowed : vsfAccessCheckFile (k.pathEnv w) cfg.denyFile f.path = true
  uploadAllowed : vsfAccessCheckFileUpload (k.pathEnv w) cfg.uploadFile f.path = true
  opened : (k.run (.open fd f) w).1 = true

/-- The file was opened for the upload, and the file system is still as the opening left
it. -/
structure UploadFile (s : State W) (fd : Fd) (f : OpenFile) (w : W) : Prop
    extends OpensUpload cfg k base φ start fd f w where
  known : s.files fd = some f
  after : φ s.world = φ (k.run (.open fd f) w).2

def IsUpload (s : State W) (fd : Fd) (f : OpenFile) : Prop :=
  ∃ w, UploadFile cfg k base φ start s fd f w

/-- The command opens an upload whose owner is to be changed. -/
def GivesAway : Prop :=
  base.isAnonymous = true ∧ cfg.chownUploads = true ∧
    ∃ fd f w, OpensUpload cfg k base φ start fd f w

/-- What a listing command asks for; its name is let through as a whole. -/
structure ListRequest (dir option filter : Bytes) (fullDetails : Bool) : Prop where
  command : ∃ statCmd, Runs cfg start (listCommand fullDetails statCmd) ∧
    (statCmd = true → fullDetails = true) ∧ option = listOption statCmd start
  named : ∃ w dirFd, φ w = φ start.world ∧
    (givesName start = true →
      vsfAccessCheckFile (k.pathEnv w) cfg.denyFile (listNameAt cfg k start w) = true) ∧
    (dir, filter) = listNames (givesName start)
      (k.run (.opendir dirFd (listNameAt cfg k start w)) w).1 (listNameAt cfg k start w)

/-- The listing was asked for, and the open directory may be read by everyone where that is
required. -/
structure ListsFor (s : State W) (fd : Fd) (dir option filter : Bytes) (fullDetails : Bool) :
    Prop extends ListRequest cfg k φ start dir option filter fullDetails where
  fs : φ s.world = φ start.world
  readable : base.isAnonymous = true → cfg.anonWorldReadableOnly = true →
    ∃ statbuf, k.fstat s.world fd = some statbuf ∧ statbuf.readableOther = true

/-- What each call is made for; `start` is the state in which the command began. -/
def Issued (e : Event W) : Prop :=
  match e.call with
  | .connect _ addr => cfg.portPromiscuous = false → RemoteTarget base addr
  | .transferFile remoteFd fileFd isRecv _ =>
    remoteFd = e.before.session.dataFd ∧ remoteFd ≠ -1 ∧
      (isRecv = true → ∃ f, IsUpload cfg k base φ start e.before fileFd f)
  | .transferDir fd dir option filter isControl fullDetails =>
    (isControl = false → e.before.session.dataFd ≠ -1) ∧
      ListsFor cfg k base φ start e.before fd dir option filter fullDetails
  | .chdir path => checkFile cfg k e.before path = true
  | .open _ f =>
    checkFile cfg k e.before f.path = true ∧ OpenGate cfg base f.how ∧
      (f.how ≠ .read → ∃ isUnique, UploadCommand cfg isUnique start)
  | .mkdir path _ =>
    checkFile cfg k e.before path = true ∧ WriteGate cfg base cfg.anonMkdirWriteEnable
  | .rmdir path =>
    checkFile cfg k e.before path = true ∧ WriteGate cfg base cfg.anonOtherWriteEnable
  | .unlink path =>
    (checkFile cfg k e.before path = true ∧ WriteGate cfg base cfg.anonOtherWriteEnable) ∨
      (cfg.deleteFailedUploads = true ∧
        ∃ fd f, IsUpload cfg k base φ start e.before fd f ∧ f.path = path)
  | .rename src dst =>
    checkFile cfg k e.before dst = true ∧ WriteGate cfg base cfg.anonOtherWriteEnable ∧
      Runs cfg start .rnto ∧ src = start.session.rnfrFilenameStr ∧ src ≠ [] ∧
      dst = resolveName cfg k start start.session.ftpArgStr ∧ φ e.before.world = φ start.world
  | .chmod path _ =>
    checkFile cfg k e.before path = true ∧ cfg.writeEnable = true ∧ cfg.chmodEnable = true ∧
      base.isAnonymous = false
  | .utime path _ _ =>
    checkFile cfg k e.before path = true ∧ WriteGate cfg base cfg.anonOtherWriteEnable ∧
      cfg.mdtmWrite = true
  | .fchmod fd _ =>
    base.isAnonymous = true ∧ cfg.chownUploads = true ∧
      ∃ f, IsUpload cfg k base φ start e.before fd f
  | .fchown _ _ => GivesAway cfg k base φ start
  | .sendFd _ =>
    e.before.turn = .session → GivesAway cfg k base φ start ∨ base.sslSlaveActive = true
  | .recvFd _ _ => e.before.turn = .parent → GivesAway cfg k base φ start
  | .waitRequest => e.before.toChild = [] ∧ CompleteRequest cfg base e.before.toParent
  | .ftruncate fd =>
    ∃ f, IsUpload cfg k base φ start e.before fd f ∧ f.how = .create
  | _ => True

/-- The calls that the parent makes. -/
def ParentCall : Syscall → Prop
  | .socket _ | .setsockopt _ | .bind _ _ | .listen _ | .connect _ _ | .accept _ | .privWrite _
  | .sendFd _ | .recvFd _ _ | .close _ | .fchown _ _ | .getRandomByte | .sleep
  | .waitRequest => True
  | _ => False

/-- The ends that the processes come to when they are out of step: a request or an
answer that is cut short or not known, or a request that does not fit the listener. -/
def lockstepFailures : List String :=
  ["listed fd is active?", "listed fd already active", "listed fd not active",
   "Illegal port request", "bad request in process_post_login_req", "priv_sock_get_cmd",
   "priv_sock_get_result", "priv_sock_get_int", "recvmsg", "no passed fd",
   "could not get privileged socket", "could not clean up socket",
   "could not accept on listening socket",
   "unexpected failure in vsf_two_process_chown_upload"]

/-- Without the check of its address the session itself may ask for a reserved port, and
the answers of the SSL slave are read like those of the parent. -/
def Excused (text : String) : Prop :=
  (text = "Illegal port request" ∧ cfg.portPromiscuous = true) ∨
    (text = "priv_sock_get_result" ∧ ∃ cmd w, (k.run (.sslSlave cmd) w).1 = none)

/-- No assertion of the source fails and the processes stay in step. -/
def Allowed : Halt → Prop
  | .bug _ | .recursion => False
  | .die text => text ∈ lockstepFailures → Excused cfg k text
  | _ => True

theorem allowed_die (text : String) (h : text ∉ lockstepFailures) :
    Allowed cfg k (.die text) :=
  fun hmem => absurd hmem h

/-- The ends of a program that asks nobody for a connection. -/
def CalmHalt (h : Halt) : Prop := Allowed cfg k h ∧ h ≠ .die "Illegal port request"

theorem calmHalt_die (text : String) (h : text ∉ lockstepFailures) :
    CalmHalt cfg k (.die text) := by
  refine ⟨allowed_die cfg k text h, fun heq => h ?_⟩
  rw [Halt.die.inj heq]
  decide

/-- The ends of a session whose stored addresses meet `may`: a port is refused only to
one of those. -/
def Answerable (may : SockAddr → Prop) (h : Halt) : Prop :=
  Allowed cfg k h ∧ (h = .die "Illegal port request" →
    ∃ addr, may addr ∧ vsfSysutilIsPortReserved (vsfSysutilSockaddrGetPort addr) = true)

theorem CalmHalt.answerable {h : Halt} (hh : CalmHalt cfg k h) (may : SockAddr → Prop) :
    Answerable cfg k may h :=
  ⟨hh.1, fun heq => absurd heq hh.2⟩

theorem answerable_die (may : SockAddr → Prop) (text : String) (h : text ∉ lockstepFailures) :
    Answerable cfg k may (.die text) :=
  (calmHalt_die cfg k text h).answerable cfg k may

/-- A text that is too long is no failure of the lockstep. -/
theorem strlen_lockstep {x : Except String α}
    (h : ∀ text, x = .error text → text = "string suspiciously long") :
    ∀ text, x = .error text → text ∉ lockstepFailures := by
  intro text htext
  rw [h text htext]
  decide

/-- What every call of a command meets. -/
structure EventOk (e : Event W) : Prop where
  inv : EventInv cfg base (e.before.core φ)
  placed : e.before.turn = .parent → ParentCall e.call
  issued : Issued cfg k base φ start e

end

def sessionRequirement (cfg : Tunables) (k : Kernel W) (base : VsfSession) (φ : W → X)
    (may : SockAddr → Prop) (start : State W) : Requirement (Event W) Halt :=
  ⟨EventOk cfg k base φ start, Answerable cfg k may⟩

section
variable {cfg : Tunables} {k : Kernel W} {base : VsfSession} {φ : W → X} {start : State W}

theorem OpensUpload.writeEnable {fd : Fd} {f : OpenFile} {w : W}
    (h : OpensUpload cfg k base φ start fd f w) : cfg.writeEnable = true := by
  have hgate := h.gate
  cases hhow : f.how with
  | read => exact absurd hhow h.writes
  | exclusive =>
      rw [hhow] at hgate
      exact hgate.1
  | create =>
      rw [hhow] at hgate
      exact hgate.1

theorem GivesAway.chownGate (h : GivesAway cfg k base φ start) : ChownGate cfg base := by
  obtain ⟨hanon, hchown, fd, f, w, hopens⟩ := h
  exact ⟨hanon, hchown, hopens.writeEnable⟩

theorem IsUpload.givesAway {s : State W} {fd : Fd} {f : OpenFile}
    (h : IsUpload cfg k base φ start s fd f) (hanon : base.isAnonymous = true)
    (hchown : cfg.chownUploads = true) : GivesAway cfg k base φ start := by
  obtain ⟨w, hw⟩ := h
  exact ⟨hanon, hchown, fd, f, w, hw.toOpensUpload⟩

end

/-! ## Programs that leave the core alone -/

/-- The calls that both processes make anywhere. -/
def SharedCall : Syscall → Prop
  | .socket _ | .setsockopt _ | .bind _ _ | .listen _ | .accept _ | .privWrite _ | .close _
  | .getRandomByte | .sleep => True
  | _ => False

/-- The calls that the session makes anywhere and that leave the file system alone. -/
def CalmCall : Syscall → Prop
  | .socket _ | .setsockopt _ | .bind _ _ | .listen _ | .accept _ | .privWrite _
  | .shutdown _ | .close _ | .recvLine | .send _ _ _ | .sendRaw _
  | .sslHandshake _ | .sslClose _ | .sslSlave _ | .log _ _ _ | .getRandomByte | .sleep
  | .checkPending | .fcntlLock _ _ | .fcntlFlags _ | .lseek _ _ | .lseekEnd _
  | .opendir _ _ => True
  | _ => False

theorem SharedCall.calm {c : Syscall} (h : SharedCall c) : CalmCall c := by
  cases c <;> first | exact trivial | exact h

theorem SharedCall.parent {c : Syscall} (h : SharedCall c) : ParentCall c := by
  cases c <;> first | exact trivial | exact h

/-- The calls after which names mean what they meant before. -/
def LeavesFs : Syscall → Prop
  | .chdir _ | .open _ _ | .mkdir _ _ | .rmdir _ | .unlink _ | .rename _ _ | .chmod _ _ => False
  | _ => True

theorem CalmCall.leavesFs {c : Syscall} (h : CalmCall c) : LeavesFs c := by
  cases c <;> first | exact trivial | exact h

/-- What `φ` knows of the file system is only changed by the calls that change names. -/
def KeepsFs (k : Kernel W) (φ : W → X) : Prop :=
  ∀ c, LeavesFs c → ∀ w, φ (k.run c w).2 = φ w

theorem keepsFs_unit (k : Kernel W) : KeepsFs k fun _ => () := fun _ _ _ => rfl

section
variable {cfg : Tunables} {k : Kernel W} {base : VsfSession} {φ : W → X}
  {may : SockAddr → Prop} {start s : State W}

theorem issued_of_calm {e : Event W} (h : CalmCall e.call) : Issued cfg k base φ start e := by
  unfold Issued
  split <;> first | trivial | (rename_i heq; rw [heq] at h; exact absurd h not_false)

/-- The core with the sockets. -/
def State.calmView (φ : W → X) (s : State W) : Core X × (Fd → Sock) := (s.core φ, s.socks)

/-- Only calm calls are made and the core and the sockets stay. -/
abbrev Calm (cfg : Tunables) (k : Kernel W) (φ : W → X) (m : M W α) : Prop :=
  Quiet (State.calmView φ) (fun v e => e.before.calmView φ = v ∧ CalmCall e.call)
    (CalmHalt cfg k) m

theorem core_run {c : Syscall} (hk : KeepsFs k φ) (hc : LeavesFs c) (s : State W) :
    ({ s with world := (k.run c s.world).2 } : State W).core φ = s.core φ := by
  unfold State.core
  dsimp only
  rw [hk c hc]

theorem calm_sys {c : Syscall} (hk : KeepsFs k φ) (hc : CalmCall c) : Calm cfg k φ (sys k c) := by
  refine Quiet.emit (fun s => ⟨rfl, hc⟩) fun s => ?_
  show ({ s with world := (k.run c s.world).2 } : State W).calmView φ = s.calmView φ
  rw [State.calmView, core_run hk hc.leavesFs]
  rfl

/-- A call, when what follows depends on what the answer can be. -/
theorem calm_sys_bind {c : Syscall} {f : Answer c → M W α} (hk : KeepsFs k φ) (hc : CalmCall c)
    (hf : ∀ w, Calm cfg k φ (f (k.run c w).1)) : Calm cfg k φ (sys k c >>= f) := by
  intro v s hs
  rw [wp_bind, wp_sys]
  have hview : State.calmView φ { s with world := (k.run c s.world).2 } = s.calmView φ :=
    congrArg (fun c => (c, s.socks)) (core_run hk hc.leavesFs s)
  exact ⟨⟨hs, hc⟩, hf s.world v _ (hview.trans hs)⟩

theorem calm_die (text : String) (h : text ∉ lockstepFailures) :
    Calm cfg k φ (die text : M W α) :=
  Quiet.halt (calmHalt_die cfg k text h)

theorem calm_orDie {x : Except String α}
    (h : ∀ text, x = .error text → text ∉ lockstepFailures) :
    Calm cfg k φ (orDie x : M W α) := by
  cases x with
  | ok a => exact Quiet.pure a
  | error text => exact calm_die text (h text rfl)

theorem calm_exit (code : Int) : Calm cfg k φ (Prog.halt (.exit code) : M W α) :=
  Quiet.halt ⟨trivial, fun heq => Halt.noConfusion heq⟩

theorem calm_getSess (p : Proc) : Calm cfg k φ (getSess p : M W VsfSession) :=
  Quiet.get.bind fun _ => Quiet.pure _

/-- The session runs and may make its calls. -/
structure Running (cfg : Tunables) (base : VsfSession) (c : Core X) : Prop where
  inv : EventInv cfg base c
  turn : c.turn = .session

/-- A call of the session is in order. -/
theorem Running.eventOk {c : Syscall} (h : Running cfg base (s.core φ))
    (hissued : Issued cfg k base φ start ⟨c, s⟩) : EventOk cfg k base φ start ⟨c, s⟩ where
  inv := h.inv
  placed := by
    intro hparent
    have hturn : s.turn = .session := h.turn
    exact absurd (hturn.symm.trans hparent) (by decide)
  issued := hissued

/-- A calm program on the way. -/
theorem Calm.wp {m : M W α} {Q : α → State W → Prop} (h : Calm cfg k φ m)
    (hs : Running cfg base (s.core φ))
    (hq : ∀ a s', s'.core φ = s.core φ → s'.socks = s.socks → Q a s') :
    wp (sessionRequirement cfg k base φ may start) m Q s := by
  refine Quiet.wp h ?_ (fun _ ha => ha.answerable cfg k may) ?_
  · rintro e ⟨hview, hcalm⟩
    have hcore : e.before.core φ = s.core φ := congrArg Prod.fst hview
    refine ⟨?_, fun hparent => ?_, issued_of_calm hcalm⟩
    · rw [hcore]
      exact hs.inv
    · have hturn : e.before.turn = .session := (congrArg Core.turn hcore).trans hs.turn
      exact absurd (hturn.symm.trans hparent) (by decide)
  · exact fun a s' hview => hq a s' (congrArg Prod.fst hview) (congrArg Prod.snd hview)

end

end Vsftpd.Session
