import Vsftpd.Access
import Vsftpd.Convert
import Vsftpd.SockAddr
import Vsftpd.Lib.Traced

/-!
# The state of a session

The session process, the privileged parent of the two-process model, the channel
between them and the descriptors.  The operating system is a `Kernel` over a world
`W` of its own; every system call is an event with the state it was made in.
-/

namespace Vsftpd.Session

open Vsftpd.Lib

/-- The settings that the code after login reads. -/
structure Tunables where
  pasvEnable : Bool := true
  portEnable : Bool := true
  writeEnable : Bool := false
  anonUploadEnable : Bool := false
  anonMkdirWriteEnable : Bool := false
  anonOtherWriteEnable : Bool := false
  chownUploads : Bool := false
  connectFromPort20 : Bool := false
  dirmessageEnable : Bool := false
  anonWorldReadableOnly : Bool := true
  asyncAborEnable : Bool := false
  asciiUploadEnable : Bool := false
  asciiDownloadEnable : Bool := false
  oneProcessModel : Bool := false
  pasvPromiscuous : Bool := false
  portPromiscuous : Bool := false
  useLocaltime : Bool := false
  downloadEnable : Bool := true
  dirlistEnable : Bool := true
  chmodEnable : Bool := true
  utf8Filesystem : Bool := false
  sslEnable : Bool := false
  sslv2 : Bool := false
  sslv3 : Bool := false
  tlsv1 : Bool := true
  forceLocalDataSsl : Bool := true
  forceAnonDataSsl : Bool := false
  requireSslReuse : Bool := true
  tildeUserEnable : Bool := false
  mdtmWrite : Bool := true
  lockUploadFiles : Bool := true
  deleteFailedUploads : Bool := false
  acceptTimeout : Nat := 60
  connectTimeout : Nat := 60
  localUmask : Nat := 0o77
  anonUmask : Nat := 0o77
  ftpDataPort : Nat := 20
  idleSessionTimeout : Nat := 300
  dataConnectionTimeout : Nat := 300
  pasvMinPort : Nat := 5001
  pasvMaxPort : Nat := 0
  anonMaxRate : Nat := 0
  localMaxRate : Nat := 0
  fileOpenMode : Nat := 0o666
  chownUploadMode : Nat := 0o600
  messageFile : Option Bytes := some (bytes ".message")
  pasvAddress : Option Bytes := none
  cmdsAllowed : Option Bytes := none
  cmdsDenied : Option Bytes := none
  denyFile : Option Bytes := none
  uploadFile : Option Bytes := none
  downloadFile : Option Bytes := none
  hideFile : Option Bytes := none
  forceDotFiles : Bool := false
  lsRecurseEnable : Bool := false
  hideIds : Bool := false
  textUserdbNames : Bool := false

abbrev Fd := Int

inductive LogEntryType where
  | download
  | upload
  | mkdir
  | delete
  | rename
  | rmdir
  | chmod
  | connection
  deriving DecidableEq, Repr

/-- `struct vsf_session`, as far as the code before and after login uses it.  A null
pointer and a log type of 0 are `none`. -/
structure VsfSession where
  localAddr : SockAddr
  remoteAddr : SockAddr
  idleTimeout : Bool := false
  dataTimeout : Bool := false
  pasvListenFd : Fd := -1
  portSockaddr : Option SockAddr := none
  dataFd : Fd := -1
  dataProgress : Bool := false
  bwRateMax : Nat := 0
  isAnonymous : Bool := true
  userStr : Bytes := []
  restartPos : Int := 0
  isAscii : Bool := true
  rnfrFilenameStr : Bytes := []
  aborReceived : Bool := false
  epsvAll : Bool := false
  visitedDirList : List Bytes := []
  anonFtpUid : Int := -1
  guestUserUid : Int := -1
  anonUploadChownUid : Int := -1
  remoteIpStr : Bytes := []
  logType : Option LogEntryType := none
  logStr : Bytes := []
  transferSize : Int := 0
  ftpCmdStr : Bytes := []
  ftpArgStr : Bytes := []
  numClients : Nat := 0
  numThisIp : Nat := 0
  homeStr : Bytes := []
  userlistStr : Bytes := []
  bannerStr : Bytes := []
  tcpWrapperOk : Bool := true
  loginFails : Nat := 0
  isHttp : Bool := false
  httpGetArg : Bytes := []
  controlUseSsl : Bool := false
  dataUseSsl : Bool := false
  /-- `p_data_ssl` is there. -/
  dataSsl : Bool := false
  sslSlaveActive : Bool := false

inductive FileKind where
  | regular
  | directory
  | other
  deriving DecidableEq, Repr

/-- `struct vsf_sysutil_statbuf` -/
structure Statbuf where
  kind : FileKind
  readableOther : Bool
  uid : Int
  size : Int
  mtime : Int
  deriving DecidableEq, Repr

/-- What a check for pending actions finds: bytes moved on the data connection, or
a signal. -/
inductive Pending where
  | io
  | sigalrm
  | sigurg
  deriving DecidableEq, Repr

inductive ControlLine where
  | eof
  | tooLong
  | line (text : Bytes)
  deriving DecidableEq, Repr

inductive SockError where
  | addrInUse
  | acces
  | other
  deriving DecidableEq, Repr

structure VsfTransferRet where
  retval : Int
  transferred : Int
  deriving DecidableEq, Repr

/-- To read, to create with `O_EXCL`, or to create or write. -/
inductive OpenHow where
  | read
  | exclusive
  | create
  deriving DecidableEq, Repr

structure OpenFile where
  how : OpenHow
  path : Bytes
  mode : Nat := 0
  deriving DecidableEq, Repr

/-! ## System calls -/

/-- The calls that change something outside the process, wait for something, or
draw on chance.  Descriptors are numbered in the order in which they are opened. -/
inductive Syscall where
  | chdir (path : Bytes)
  | open (fd : Fd) (file : OpenFile)
  | mkdir (path : Bytes) (mode : Nat)
  | rmdir (path : Bytes)
  | unlink (path : Bytes)
  | rename (src dst : Bytes)
  | chmod (path : Bytes) (mode : Nat)
  | utime (path : Bytes) (time : Int) (isLocaltime : Bool)
  | fchmod (fd : Fd) (mode : Nat)
  | fchown (fd : Fd) (uid : Int)
  | ftruncate (fd : Fd)
  | lseek (fd : Fd) (pos : Int)
  | lseekEnd (fd : Fd)
  | fcntlLock (fd : Fd) (write : Bool)
  | fcntlFlags (fd : Fd)
  | opendir (fd : Fd) (path : Bytes)
  | socket (ipv6 : Bool)
  | setsockopt (fd : Fd)
  | bind (fd : Fd) (addr : SockAddr)
  | listen (fd : Fd)
  | connect (fd : Fd) (addr : SockAddr)
  | accept (fd : Fd)
  | privWrite (bytes : Bytes)
  | sendFd (fd : Fd)
  | recvFd (fd : Fd) (passed : Nat)
  | shutdown (fd : Fd)
  | close (fd : Fd)
  | recvLine
  | send (status : Nat) (sep : UInt8) (text : Bytes)
  | sendRaw (text : Bytes)
  | transferFile (remoteFd fileFd : Fd) (isRecv isAscii : Bool)
  | transferDir (fd : Fd) (dir option filter : Bytes) (isControl fullDetails : Bool)
  | sslNew (fd : Fd)
  | sslHandshake (fd : Fd)
  | sslClose (fd : Fd)
  | sslSlave (cmd : UInt8)
  | log (succeeded : Bool) (what : Option LogEntryType) (text : Bytes)
  | login (user pass : Bytes) (controlUseSsl dataUseSsl : Bool)
  | getRandomByte
  | sleep
  | waitRequest
  | checkPending
  deriving DecidableEq

@[reducible] def Answer : Syscall → Type
  | .recvFd _ _ | .shutdown _ | .log _ _ _ | .sleep | .waitRequest => Unit
  | .bind _ _ | .listen _ => Except SockError Unit
  | .accept _ => Option SockAddr
  | .recvLine => ControlLine
  | .transferFile _ _ _ _ => Option VsfTransferRet
  | .transferDir _ _ _ _ _ _ => Int
  | .getRandomByte => UInt8
  | .sslSlave _ => Option UInt8
  | .login _ _ _ _ => Option Bool
  | .checkPending => List Pending
  | _ => Bool

/-- The answer that lets the caller go on. -/
def Syscall.success : (c : Syscall) → Answer c
  | .recvFd _ _ | .shutdown _ | .log _ _ _ | .sleep | .waitRequest => ()
  | .bind _ _ | .listen _ => .ok ()
  | .accept _ => none
  | .recvLine => .eof
  | .transferFile _ _ _ _ => some ⟨0, 0⟩
  | .transferDir _ _ _ _ _ _ => 0
  | .getRandomByte => 0
  | .sslSlave _ => some 1
  | .login _ _ _ _ => some true
  | .checkPending => []
  | .chdir _ | .open _ _ | .mkdir _ _ | .rmdir _ | .unlink _ | .rename _ _ | .chmod _ _
  | .utime _ _ _ | .fchmod _ _ | .fchown _ _ | .ftruncate _ | .lseek _ _ | .lseekEnd _
  | .fcntlLock _ _ | .fcntlFlags _ | .opendir _ _ | .socket _ | .setsockopt _ | .connect _ _
  | .privWrite _ | .sendFd _ | .close _ | .send _ _ _ | .sendRaw _ | .sslNew _ | .sslHandshake _
  | .sslClose _ => true

/-- The operating system, the network and the client.  The fields after `run` look
at the world without changing it. -/
structure Kernel (W : Type) where
  run : (c : Syscall) → W → Answer c × W
  pathEnv : W → PathEnv
  stat : W → Bytes → Option Statbuf
  fstat : W → Fd → Option Statbuf
  fileread : W → Bytes → Bytes
  getpwnamHomedir : W → Bytes → Option Bytes
  /-- `inet_aton(3)`, `mktime(3)` and `strftime(3)` of a modification time. -/
  inetAton : Bytes → Option InAddr
  mktime : Tm → Int
  numericDate : (mtime : Int) → (useLocaltime : Bool) → Option Bytes
  /-- The reason that the SSL library gives for its last failure. -/
  sslError : W → Bytes := fun _ => []

/-! ## The state -/

/-- The session process or its privileged parent. -/
inductive Proc where
  | session
  | parent
  deriving DecidableEq, Repr

/-- What the kernel knows of a socket. -/
structure Sock where
  boundTo : Option SockAddr := none
  connectedTo : Option SockAddr := none
  acceptedFrom : Option (Fd × SockAddr) := none
  listening : Bool := false
  deriving DecidableEq

inductive AlarmHandler where
  | idle
  | data
  deriving DecidableEq, Repr

/-- A descriptor on its way: which open file it is, and what socket. -/
structure Passed where
  file : Nat
  sock : Sock := {}
  deriving DecidableEq

/-- A byte on the channel between the processes, with what was passed along. -/
structure ChannelByte where
  byte : UInt8
  passed : Option Passed := none
  deriving DecidableEq

structure State (W : Type) where
  session : VsfSession
  parent : VsfSession
  turn : Proc := .session
  toParent : List ChannelByte := []
  toChild : List ChannelByte := []
  ioHandler : Bool := false
  alarmHandler : Option AlarmHandler := none
  sigurgHandler : Bool := false
  umask : Nat := 0o77
  nextFd : Nat := 3
  socks : Fd → Sock := fun _ => {}
  /-- What each file descriptor was opened as. -/
  files : Fd → Option OpenFile := fun _ => none
  /-- Set inside the bodies of `init_data_sock_params` and
  `vsf_ftpdataio_dispose_transfer_fd`; nothing reads it. -/
  inDataSetup : Bool := false
  world : W

structure Event (W : Type) where
  call : Syscall
  before : State W

inductive Halt where
  | exit (code : Int)
  | die (text : String)
  | bug (text : String)
  /-- A failed bounds check. -/
  | trap
  /-- `port_active` and `pasv_active` calling each other. -/
  | recursion
  /-- The search for a unique file name. -/
  | searching
  /-- The login, after which the code before it does not go on. -/
  | loggedIn
  deriving DecidableEq, Repr

abbrev M (W : Type) := Prog (Event W) (State W) Halt

variable {W : Type}

def State.sess (s : State W) : Proc → VsfSession
  | .session => s.session
  | .parent => s.parent

def State.setSess (s : State W) (p : Proc) (v : VsfSession) : State W :=
  match p with
  | .session => { s with session := v }
  | .parent => { s with parent := v }

@[simp] theorem State.sess_session (s : State W) : s.sess .session = s.session := rfl

def modifySess (p : Proc) (f : VsfSession → VsfSession) : M W Unit :=
  Prog.modify fun s => s.setSess p (f (s.sess p))

def sys (k : Kernel W) (c : Syscall) : M W (Answer c) :=
  Prog.emit (fun s => ⟨c, s⟩)
    fun s => ((k.run c s.world).1, { s with world := (k.run c s.world).2 })

def die {α : Type} (text : String) : M W α := Prog.halt (.die text)

def bug {α : Type} (text : String) : M W α := Prog.halt (.bug text)

/-- A conversion that may end the process. -/
def orDie {α : Type} : Except String α → M W α
  | .ok a => pure a
  | .error text => die text

/-- The number of the next descriptor. -/
def newFd : M W Fd := do
  let s ← Prog.get
  Prog.modify fun s => { s with nextFd := s.nextFd + 1 }
  pure s.nextFd

def getSess (p : Proc) : M W VsfSession := do
  let s ← Prog.get
  pure (s.sess p)

def modifySock (fd : Fd) (f : Sock → Sock) : M W Unit :=
  Prog.modify fun s => { s with socks := Function.update s.socks fd (f (s.socks fd)) }

/-! ## Runs of the primitives -/

section
variable {R : Requirement (Event W) Halt} {s : State W} {α : Type}

theorem wp_sys {k : Kernel W} {c : Syscall} {Q : Answer c → State W → Prop} :
    wp R (sys k c) Q s ↔
      R.event ⟨c, s⟩ ∧ Q (k.run c s.world).1 { s with world := (k.run c s.world).2 } :=
  wp_emit

/-- A call whose answer may be anything. -/
theorem wp_sys_any {k : Kernel W} {c : Syscall} {Q : Answer c → State W → Prop}
    (he : R.event ⟨c, s⟩) (hq : ∀ a w, Q a { s with world := w }) : wp R (sys k c) Q s :=
  wp_sys.mpr ⟨he, hq _ _⟩

theorem wp_die {text : String} {Q : α → State W → Prop} :
    wp R (die text) Q s ↔ R.halt (.die text) :=
  wp_halt

theorem wp_bug {text : String} {Q : α → State W → Prop} :
    wp R (bug text) Q s ↔ R.halt (.bug text) :=
  wp_halt

theorem wp_orDie {x : Except String α} {Q : α → State W → Prop}
    (hok : ∀ a, x = .ok a → Q a s) (hdie : ∀ text, x = .error text → R.halt (.die text)) :
    wp R (orDie x) Q s := by
  cases x with
  | ok a => exact wp_pure.mpr (hok a rfl)
  | error text => exact wp_die.mpr (hdie text rfl)

theorem wp_getSess {p : Proc} {Q : VsfSession → State W → Prop} :
    wp R (getSess p) Q s ↔ Q (s.sess p) s := by
  rw [getSess, wp_bind, wp_get, wp_pure]

theorem wp_modifySess {p : Proc} {f : VsfSession → VsfSession} {Q : Unit → State W → Prop} :
    wp R (modifySess p f) Q s ↔ Q () (s.setSess p (f (s.sess p))) :=
  wp_modify

theorem wp_modifySock {fd : Fd} {f : Sock → Sock} {Q : Unit → State W → Prop} :
    wp R (modifySock fd f) Q s ↔
      Q () { s with socks := Function.update s.socks fd (f (s.socks fd)) } :=
  wp_modify

theorem wp_newFd {Q : Fd → State W → Prop} :
    wp R newFd Q s ↔ Q s.nextFd { s with nextFd := s.nextFd + 1 } := by
  rw [newFd, wp_bind, wp_get, wp_bind, wp_modify, wp_pure]

end

end Vsftpd.Session
