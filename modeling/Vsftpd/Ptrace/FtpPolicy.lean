import Vsftpd.AddrEqual
import Vsftpd.Ptrace.Supervisor
import Vsftpd.Seccomp.Policy

/-!
# The ptrace policy of a session

`policy_setup` of `ftppolicy.c` and its validators, which look at the arguments of the
socket calls in the memory of the process.
-/

namespace Vsftpd.PtraceSandbox

open Vsftpd.Session (VsfSession)
open Vsftpd.Seccomp (PolicyTunables)

def afInet : UInt32 := 2
def afInet6 : UInt32 := 10
def sockStream : UInt32 := 1

def solSocket : UInt32 := 1
def soReuseaddr : UInt32 := 2
def soError : UInt32 := 4
def soKeepalive : UInt32 := 9
def soOobinline : UInt32 := 10
def soLinger : UInt32 := 13
def ipprotoIp : UInt32 := 0
def ipTos : UInt32 := 1
def ipprotoTcp : UInt32 := 6
def tcpNodelay : UInt32 := 1

/-! ## The validators -/

def expectedFamily (sess : VsfSession) : UInt32 :=
  if vsfSysutilSockaddrIsIpv6 sess.localAddr then afInet6 else afInet

/-- The size of a `struct sockaddr_in` or `struct sockaddr_in6`. -/
def expectedLen (sess : VsfSession) : Nat :=
  if vsfSysutilSockaddrIsIpv6 sess.localAddr then 28 else 16

def socketValidator (sess : VsfSession) : SocketcallValidator := fun p => do
  let arg1 ← ptraceSandboxGetSocketcallArg p 0
  let arg2 ← ptraceSandboxGetSocketcallArg p 1
  if arg1 ≠ expectedFamily sess ∨ arg2 ≠ sockStream then .error (-1) else .ok ()

/-- `sa_family`, the first two bytes. -/
def saFamily (buf : Bytes) : UInt32 := word (buf.take 2)

def sinAddr (buf : Bytes) : InAddr :=
  ⟨(List.range 4).map fun i => buf.getD (4 + i) 0, by rw [List.length_map, List.length_range]⟩

def sin6Addr (buf : Bytes) : In6Addr :=
  ⟨(List.range 16).map fun i => buf.getD (8 + i) 0, by rw [List.length_map, List.length_range]⟩

/-- The address of the buffer, without its port. -/
def sockptr (sess : VsfSession) (buf : Bytes) : SockAddr :=
  if vsfSysutilSockaddrIsIpv6 sess.localAddr then .inet6 (sin6Addr buf) 0 0
  else .inet (sinAddr buf) 0

def connectValidator (sess : VsfSession) : SocketcallValidator := fun p => do
  let arg2 ← ptraceSandboxGetSocketcallArg p 1
  let arg3 ← ptraceSandboxGetSocketcallArg p 2
  if arg3.toNat ≠ expectedLen sess then .error (-1)
  else
    match getBuf p arg2.toNat (expectedLen sess) with
    | .error _ => .error (-2)
    | .ok buf =>
      if saFamily buf ≠ expectedFamily sess then .error (-3)
      else if vsfSysutilSockaddrAddrEqual sess.remoteAddr (sockptr sess buf) = false then
        .error (-4)
      else .ok ()

def getsockoptValidator : SocketcallValidator := fun p => do
  let arg2 ← ptraceSandboxGetSocketcallArg p 1
  let arg3 ← ptraceSandboxGetSocketcallArg p 2
  if arg2 ≠ solSocket ∨ arg3 ≠ soError then .error (-1) else .ok ()

def setsockoptValidator : SocketcallValidator := fun p => do
  let arg2 ← ptraceSandboxGetSocketcallArg p 1
  let arg3 ← ptraceSandboxGetSocketcallArg p 2
  if arg2 = solSocket then
    if arg3 ≠ soKeepalive ∧ arg3 ≠ soReuseaddr ∧ arg3 ≠ soOobinline ∧ arg3 ≠ soLinger then
      .error (-1)
    else .ok ()
  else if arg2 = ipprotoTcp then
    if arg3 ≠ tcpNodelay then .error (-2) else .ok ()
  else if arg2 = ipprotoIp then
    if arg3 ≠ ipTos then .error (-3) else .ok ()
  else .error (-4)

/-! ## The policy -/

/-- What every session may do, network and writing aside. -/
def setupBase (cfg : PolicyTunables) (pol : Policy) : Policy :=
  let pol := pol.permitExit.permitMmap.permitMprotect.permitBrk.permitRead.permitWrite
  let pol := pol.permitRecv.permitQueryTime
  let pol := (pol.permitOpen false).permitClose.permitFileStats.permitReadlink
  let pol := pol.permitGetcwd.permitChdir.permitGetdents
  let pol := pol.permitFdStats.permitSeek.permitShutdown.permitFcntl
  let pol := pol.permitSetsockopt.setSetsockoptValidator setsockoptValidator
  let pol := pol.permitUmask.permitSelect.permitSigreturn.permitSleep.permitSendfile
  let pol := if cfg.textUserdbNames then pol.permitMremap else pol
  let pol :=
    if cfg.asyncAborEnable ∨ cfg.idleSessionTimeout > 0 ∨ cfg.dataConnectionTimeout > 0 then
      pol.permitSigaction
    else pol
  if cfg.idleSessionTimeout > 0 ∨ cfg.dataConnectionTimeout > 0 then pol.permitAlarm else pol

/-- The permissions behind `port_enable`. -/
def setupPort (sess : VsfSession) (pol : Policy) : Policy :=
  let pol := pol.permitConnect.setConnectValidator (connectValidator sess)
  pol.permitGetsockopt.setGetsockoptValidator getsockoptValidator

/-- The network permissions. -/
def setupNetwork (cfg : PolicyTunables) (sess : VsfSession) (pol : Policy) : Policy :=
  let pol := pol.permitSocket.setSocketValidator (socketValidator sess)
  -- the reuse of the connect validator is intentional
  let pol := pol.permitBind.setBindValidator (connectValidator sess)
  let pol := if cfg.portEnable then setupPort sess pol else pol
  if cfg.pasvEnable then pol.permitListen.permitAccept else pol

/-- The permissions behind `anon_other_write_enable`. -/
def setupOther (cfg : PolicyTunables) (pol : Policy) : Policy :=
  let pol := pol.permitUnlink.permitRmdir.permitRename.permitFtruncate
  if cfg.mdtmWrite then pol.permitUtime else pol

/-- The write permissions. -/
def setupWrite (cfg : PolicyTunables) (isAnon : Bool) (pol : Policy) : Policy :=
  if cfg.writeEnable then
    let pol := if !isAnon || cfg.anonUploadEnable then pol.permitOpen true else pol
    let pol := if !isAnon || cfg.anonMkdirWriteEnable then pol.permitMkdir else pol
    let pol := if !isAnon || cfg.anonOtherWriteEnable then setupOther cfg pol else pol
    let pol := if !isAnon && cfg.chmodEnable then pol.permitChmod else pol
    if isAnon && cfg.chownUploads then pol.permitFchmod.permitFchown else pol
  else pol

def policySetup (cfg : PolicyTunables) (sess : VsfSession) (pol : Policy) : Policy :=
  setupWrite cfg sess.isAnonymous (setupNetwork cfg sess (setupBase cfg pol))

/-- The sandbox of `vsf_one_process_start`, with the process in it. -/
def ftpSandbox (cfg : PolicyTunables) (sess : VsfSession) (pid : Int) : PtSandbox where
  toPolicy := policySetup cfg sess {}
  pid := pid

/-! ## What a session may ask for -/

/-- The call names an address of the client, in the family of the control connection. -/
structure NamesClient (sess : VsfSession) (p : Stopped) (ptr : UInt32) : Prop where
  address : SocketArg p 1 ptr
  size : SocketArg p 2 (UInt32.ofNat (expectedLen sess))
  readable : Readable p ptr.toNat (expectedLen sess)
  family : saFamily (p.bytes ptr.toNat (expectedLen sess)) = expectedFamily sess
  client : canonical sess.remoteAddr =
    canonical (sockptr sess (p.bytes ptr.toNat (expectedLen sess)))

/-- The options that a session may set. -/
def settableOptions : List (UInt32 × UInt32) :=
  [(solSocket, soKeepalive), (solSocket, soReuseaddr), (solSocket, soOobinline),
   (solSocket, soLinger), (ipprotoTcp, tcpNodelay), (ipprotoIp, ipTos)]

inductive FtpSocketcall (cfg : PolicyTunables) (sess : VsfSession) (p : Stopped) : Nat → Prop
  | socket : SocketArg p 0 (expectedFamily sess) → SocketArg p 1 sockStream →
      FtpSocketcall cfg sess p sysSocket
  | bind (ptr : UInt32) : NamesClient sess p ptr → FtpSocketcall cfg sess p sysBind
  | connect (ptr : UInt32) : cfg.portEnable = true → NamesClient sess p ptr →
      FtpSocketcall cfg sess p sysConnect
  | listen : cfg.pasvEnable = true → FtpSocketcall cfg sess p sysListen
  | accept : cfg.pasvEnable = true → FtpSocketcall cfg sess p sysAccept
  | recv : FtpSocketcall cfg sess p sysRecv
  | shutdown : FtpSocketcall cfg sess p sysShutdown
  | setsockopt (level option : UInt32) : (level, option) ∈ settableOptions →
      SocketArg p 1 level → SocketArg p 2 option → FtpSocketcall cfg sess p sysSetsockopt
  | getsockopt : cfg.portEnable = true → SocketArg p 1 solSocket → SocketArg p 2 soError →
      FtpSocketcall cfg sess p sysGetsockopt

/-- Calls that change nothing but the process itself and what it has open. -/
def plainCalls : List Nat :=
  [nrExit, nrExitGroup, nrMprotect, nrBrk, nrRead, nrWrite, nrGettimeofday, nrTime, nrClose,
   nrStat, nrStat64, nrLstat, nrLstat64, nrReadlink, nrGetcwd, nrChdir, nrGetdents, nrGetdents64,
   nrFstat, nrFstat64, nrLseek, nrLlseek, nrUmask, nrSelect, nrNewselect, nrSigreturn, nrNanosleep,
   nrSendfile, nrSendfile64]

section
variable (cfg : PolicyTunables) (sess : VsfSession)

/-- Whether this session may do what an anonymous one does only with a setting of its own. -/
def MayWrite (anonSetting : Bool) : Prop :=
  cfg.writeEnable = true ∧ (sess.isAnonymous = true → anonSetting = true)

def HasTimeout : Prop := cfg.idleSessionTimeout > 0 ∨ cfg.dataConnectionTimeout > 0

inductive FtpCall (pid : Int) (p : Stopped) : Nat → Prop
  | plain (call : Nat) : call ∈ plainCalls → FtpCall pid p call
  | mmap : p.regs.esi &&& mapShared = 0 → FtpCall pid p nrMmap2
  | openFile : p.regs.ecx &&& (oAsync ||| oDirect ||| oSync) = 0 →
      (p.regs.ecx &&& oAccmode = oRdonly ∨ MayWrite cfg sess cfg.anonUploadEnable) →
      FtpCall pid p nrOpen
  | fcntl (call : Nat) : call ∈ [nrFcntl, nrFcntl64] → p.regs.ecx ∈ fcntlCommands →
      (p.regs.ecx = fSetfl → p.regs.edx &&& (oAsync ||| oDirect) = 0) →
      (p.regs.ecx = fSetown → toInt32 p.regs.edx.toNat = pid) → FtpCall pid p call
  | socketcall : FtpSocketcall cfg sess p p.regs.ebx.toNat → FtpCall pid p nrSocketcall
  | mremap : cfg.textUserdbNames = true → FtpCall pid p nrMremap
  | sigaction (call : Nat) : call ∈ [nrSigaction, nrRtSigaction] →
      (cfg.asyncAborEnable = true ∨ HasTimeout cfg) → FtpCall pid p call
  | alarm : HasTimeout cfg → FtpCall pid p nrAlarm
  | mkdir : MayWrite cfg sess cfg.anonMkdirWriteEnable → FtpCall pid p nrMkdir
  | change (call : Nat) : call ∈ [nrUnlink, nrRmdir, nrRename, nrFtruncate, nrFtruncate64] →
      MayWrite cfg sess cfg.anonOtherWriteEnable → FtpCall pid p call
  | utime (call : Nat) : call ∈ [nrUtime, nrUtimes] → cfg.mdtmWrite = true →
      MayWrite cfg sess cfg.anonOtherWriteEnable → FtpCall pid p call
  | chmod : cfg.chmodEnable = true → MayWrite cfg sess false → FtpCall pid p nrChmod
  | chownUpload (call : Nat) : call ∈ [nrFchmod, nrFchown, nrFchown32] →
      cfg.chownUploads = true → sess.isAnonymous = true → cfg.writeEnable = true →
      FtpCall pid p call

/-- A call of the 32-bit table that the session may make. -/
def FtpRequest (pid : Int) (p : Stopped) : Prop :=
  (p.regs.xcs = 0x73 ∨ p.regs.xcs = 0x23) ∧
    ∃ call : Nat, p.regs.origEax = call ∧ FtpCall cfg sess pid p call

end

end Vsftpd.PtraceSandbox
