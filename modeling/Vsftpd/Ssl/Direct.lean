import Vsftpd.NetStr

/-!
# Encrypted connections

What `readwrite.c`, `ssl.c` and `ftpdataio.c` do in a process that has the SSL objects
itself.  The library is a parameter: it answers what it likes, other than the codes after
which a call is made again, and `SSL_accept` succeeds.  What is logged is left out.
-/

namespace Vsftpd.Ssl

open Vsftpd.NetStr

def vsftpDataBufsize : Nat := 65536

def vsftpMaxCommandLine : Nat := 4096

/-- `p_control_ssl` or `p_data_ssl`. -/
inductive Conn where
  | control
  | data
  deriving DecidableEq, Repr

/-- An answer of `SSL_read` or `SSL_peek`, with what it put into a buffer of `len` bytes. -/
structure ReadAnswer (σ : Type) (len : Nat) where
  retval : Int
  data : Bytes
  lib : σ
  length_data : data.length = retval.toNat
  length_le : data.length ≤ len

/-- What comes of taking the digest of a peer's certificate. -/
inductive CertDigest where
  | missing
  | failed
  | made (digest : Bytes)

structure SslLib (σ : Type) where
  sslRead : Conn → (len : Nat) → σ → ReadAnswer σ len
  sslPeek : Conn → (len : Nat) → σ → ReadAnswer σ len
  sslWrite : Conn → Bytes → σ → Int × σ
  isInt : ∀ conn text lib, -2 ^ 31 ≤ (sslWrite conn text lib).1 ∧
    (sslWrite conn text lib).1 < 2 ^ 31
  /-- `SSL_get_shutdown` is `SSL_RECEIVED_SHUTDOWN`. -/
  receivedShutdown : Conn → σ → Bool
  sslShutdown : σ → Int × σ
  sslFree : σ → σ
  /-- `get_ssl`: whether there is an object for the data connection. -/
  getSsl : (fd : Nat) → σ → Bool × σ
  sslSessionReused : σ → Bool
  /-- `ssl_cert_digest` of the data connection. -/
  sslCertDigest : σ → CertDigest

/-- The tunables, and the digest that was taken when the control connection was set up. -/
structure SslConfig where
  strictSslReadEof : Bool := false
  strictSslWriteShutdown : Bool := false
  requireSslReuse : Bool := true
  controlCertDigest : Bytes := []

inductive Halt where
  | die (text : String)
  | bug (text : String)
  /-- In `str_netfd_alloc`. -/
  | line (fault : Fault)
  /-- A message was read that is not of this kind or length. -/
  | mismatch
  deriving DecidableEq, Repr

/-- What the process with the SSL objects has of them. -/
structure SslSide (σ : Type) where
  lib : σ
  /-- `p_data_ssl` is there. -/
  dataSsl : Bool
  controlLineBuf : Bytes

section
variable {σ : Type} (lib : SslLib σ) (cfg : SslConfig)

def sslReadCommon (conn : Conn) {len : Nat} (answer : ReadAnswer σ len) : Int :=
  if answer.retval = 0 ∧ lib.receivedShutdown conn answer.lib = false then
    if cfg.strictSslReadEof then -1 else answer.retval
  else answer.retval

def sslRead (conn : Conn) (len : Nat) (s : σ) : NetResult σ :=
  let answer := lib.sslRead conn len s
  ⟨sslReadCommon lib cfg conn answer, answer.data, answer.lib⟩

def sslPeek (conn : Conn) (len : Nat) (s : σ) : NetResult σ :=
  let answer := lib.sslPeek conn len s
  ⟨sslReadCommon lib cfg conn answer, answer.data, answer.lib⟩

/-- `ssl_peek_adapter` and `ssl_read_adapter` -/
def sslAdapters : NetReader σ where
  peek := fun s len => sslPeek lib cfg .control len s
  read := fun s len => sslRead lib cfg .control len s

def sslWriteStr (conn : Conn) (text : Bytes) (s : σ) : Int × σ :=
  let (ret, s) := lib.sslWrite conn text s
  (if (ret % 2 ^ 32).toNat ≠ text.length then -1 else 0, s)

def sslDataClose (e : SslSide σ) : Bool × SslSide σ :=
  if e.dataSsl then
    let (ret, s) := lib.sslShutdown e.lib
    if ret = 0 then
      let (ret, s) := lib.sslShutdown s
      (!(ret ≠ 1 && cfg.strictSslWriteShutdown), { e with lib := lib.sslFree s, dataSsl := false })
    else
      (!(ret < 0 && cfg.strictSslWriteShutdown), { e with lib := lib.sslFree s, dataSsl := false })
  else (true, e)

/-- What is checked of a new data connection. -/
def dataConnectionOk (s : σ) : Except Halt Bool :=
  if cfg.requireSslReuse && !lib.sslSessionReused s then .ok false
  else if cfg.controlCertDigest.length > 0 then
    match lib.sslCertDigest s with
    | .missing => .ok false
    | .failed => .error (.die "X509_digest failed")
    | .made digest => .ok (cfg.controlCertDigest = digest)
  else .ok true

def sslAccept (fd : Nat) (e : SslSide σ) : Except Halt (Bool × SslSide σ) :=
  if e.dataSsl then .error (.die "p_data_ssl should be NULL.")
  else
    let (made, s) := lib.getSsl fd e.lib
    if !made then .ok (false, { e with lib := s })
    else
      let e := { e with lib := s, dataSsl := true }
      match dataConnectionOk lib cfg s with
      | .error h => .error h
      | .ok true => .ok (true, e)
      | .ok false => .ok (false, (sslDataClose lib cfg e).2)

/-- `ftp_getline`: the return value and the line. -/
def ftpGetline (e : SslSide σ) : Except Halt (Int × Bytes × SslSide σ) :=
  match strNetfdLoop (sslAdapters lib cfg) 10 (vsftpMaxCommandLine + 1)
      ⟨e.controlLineBuf, 0, vsftpMaxCommandLine, e.lib⟩ with
  | .error fault => .error (.line fault)
  | .ok res => .ok (res.retval, res.str, { e with lib := res.sess, controlLineBuf := res.block })

end

/-! ## What a session asks for -/

inductive Op where
  | getline
  | writeControl (text : Bytes)
  | writeStr (text : Bytes)
  | writeData (buf : Bytes)
  | readData (len : Nat)
  | handshake (dataFd : Nat)
  | close

/-- What comes of it for the session. -/
inductive Out where
  | line (ret : Int) (text : Bytes)
  | written (ret : Int)
  | read (ret : Int) (buf : Bytes)
  | connected (ok : Bool)
  | disposed (ok : Bool)
  deriving DecidableEq, Repr

section
variable {σ : Type} (lib : SslLib σ) (cfg : SslConfig)

/-- The session and the SSL objects in one process. -/
structure Direct (σ : Type) where
  side : SslSide σ
  ftpCmdStr : Bytes

def directOp (op : Op) (d : Direct σ) : Except Halt (Out × Direct σ) :=
  match op with
  | .getline =>
    match ftpGetline lib cfg d.side with
    | .error h => .error h
    | .ok (ret, text, side) => .ok (.line ret text, ⟨side, text⟩)
  | .writeControl text =>
    let (ret, s) := sslWriteStr lib .control text d.side.lib
    .ok (.written ret, { d with side := { d.side with lib := s } })
  | .writeStr text =>
    let (ret, s) := sslWriteStr lib .data text d.side.lib
    .ok (.written ret, { d with side := { d.side with lib := s } })
  | .writeData buf =>
    let (ret, s) := lib.sslWrite .data buf d.side.lib
    .ok (.written ret, { d with side := { d.side with lib := s } })
  | .readData len =>
    let res := sslRead lib cfg .data len d.side.lib
    .ok (.read res.retval res.data, { d with side := { d.side with lib := res.sess } })
  | .handshake dataFd =>
    match sslAccept lib cfg dataFd d.side with
    | .error h => .error h
    | .ok (ok, side) => .ok (.connected ok, { d with side := side })
  | .close =>
    let (ok, side) := sslDataClose lib cfg d.side
    .ok (.disposed ok, { d with side := side })

/-- The results, and how it ends. -/
def directRun : List Op → Direct σ → List Out × Except Halt (Direct σ)
  | [], d => ([], .ok d)
  | op :: rest, d =>
    match directOp lib cfg op d with
    | .error h => ([], .error h)
    | .ok (out, d) => ((out :: (directRun rest d).1), (directRun rest d).2)

/-- What the transfer code keeps to: data goes over a connection that was set up and not
closed, and none is set up while there is one. -/
def Op.Fits (op : Op) (d : Direct σ) : Prop :=
  match op with
  | .getline => True
  | .writeControl text => text ≠ [] ∧ text.length ≤ 2 * vsftpDataBufsize
  | .writeStr text => d.side.dataSsl = true ∧ text ≠ [] ∧ text.length ≤ 2 * vsftpDataBufsize
  | .writeData buf => d.side.dataSsl = true ∧ buf ≠ [] ∧ buf.length ≤ 2 * vsftpDataBufsize
  | .readData len => d.side.dataSsl = true ∧ 0 < len ∧ len ≤ vsftpDataBufsize
  | .handshake _ => d.side.dataSsl = false
  | .close => True

def OpsFit : List Op → Direct σ → Prop
  | [], _ => True
  | op :: rest, d => op.Fits d ∧
    match directOp lib cfg op d with
    | .error _ => True
    | .ok (_, d) => OpsFit rest d

end

end Vsftpd.Ssl
