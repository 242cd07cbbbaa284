import Vsftpd.Convert
import Vsftpd.Lib.ExceptRules
import Vsftpd.PtraceSandbox

/-!
# The tables of the ptrace sandbox

What `ptracesandbox.c` keeps of a policy, the functions that extend it, and `get_action`,
the check of a system call at whose entry the traced process is stopped.  The numbers are
those of Linux on i386.
-/

namespace Vsftpd.PtraceSandbox

open Vsftpd.Lib (bind_eq_ok_iff ok_bind)

/-! ## A process at a system call -/

/-- `struct user_regs_struct`, as far as it is looked at. -/
structure Regs where
  ebx : UInt32 := 0
  ecx : UInt32 := 0
  edx : UInt32 := 0
  esi : UInt32 := 0
  edi : UInt32 := 0
  ebp : UInt32 := 0
  origEax : Int
  xcs : Int := 0x73
  deriving DecidableEq, Repr

/-- The registers, the memory, and which of its words cannot be read. -/
structure Stopped where
  regs : Regs
  memory : Nat → UInt8 := fun _ => 0
  peekErrno : Nat → Option Nat := fun _ => none

def Stopped.tracee (p : Stopped) (ptr : Nat) : Tracee where
  memory := p.memory
  errno k := p.peekErrno (ulong (ptr + sizeofLong * k))

def ptraceSandboxErrWaitStatus : Int := -4
def ptraceSandboxErrPolicySyscall : Int := -5
def ptraceSandboxErrBadSyscall : Int := -6
def ptraceSandboxErrPolicyArgs : Int := -7
def ptraceSandboxErrApiAbuseStopit : Int := -8

def ptraceSandboxGetArg (p : Stopped) (arg : Nat) : Except Int UInt32 :=
  if p.regs.origEax = 0 then .error ptraceSandboxErrApiAbuseStopit
  else
    match arg with
    | 0 => .ok p.regs.ebx
    | 1 => .ok p.regs.ecx
    | 2 => .ok p.regs.edx
    | 3 => .ok p.regs.esi
    | 4 => .ok p.regs.edi
    | 5 => .ok p.regs.ebp
    | _ => .error ptraceSandboxErrApiAbuseStopit

/-- `ptrace_sandbox_get_buf` for whole words, with what is then in the buffer. -/
def getBuf (p : Stopped) (ptr len : Nat) : Except Int Bytes :=
  let r := ptraceSandboxGetBuf (p.tracee ptr) ptr len (len / sizeofLong + 1)
  match r.ret with
  | some 0 => .ok ((List.range len).map fun i => (r.buf i).getD 0)
  | some err => .error err
  | none => .error 0

/-- A `long` of the process; i386 has the low byte first. -/
def word (b : Bytes) : UInt32 :=
  UInt32.ofNat (b.reverse.foldl (fun n c => n * 256 + c.toNat) 0)

def ptraceSandboxGetLong (p : Stopped) (ptr : Nat) : Except Int UInt32 := do
  let b ← getBuf p ptr sizeofLong
  return word b

def ptraceSandboxGetSocketcallArg (p : Stopped) (arg : Nat) : Except Int UInt32 := do
  if p.regs.origEax = 0 then .error ptraceSandboxErrApiAbuseStopit
  else if arg > 2 then .error ptraceSandboxErrApiAbuseStopit
  else
    let ptr ← ptraceSandboxGetArg p 1
    ptraceSandboxGetLong p (ulong (ptr.toNat + arg * 4))

/-! ## Policies -/

def maxSyscall : Nat := 300

/-- `NPROTO`, which is `AF_MAX`. -/
def nproto : Nat := 46

/-- The validators of `ptracesandbox.c` itself. -/
inductive Validator where
  | mmap2
  | openDefault
  | openReadonly
  | fcntl
  | socketcall
  deriving DecidableEq, Repr

abbrev SocketcallValidator := Stopped → Except Int Unit

/-- The tables of `struct pt_sandbox`. -/
structure Policy where
  isAllowed : Nat → Bool := fun _ => false
  validator : Nat → Option Validator := fun _ => none
  isSocketcallAllowed : Nat → Bool := fun _ => false
  socketcallValidator : Nat → Option SocketcallValidator := fun _ => none

/-- `struct pt_sandbox`; a sandbox without a process has the pid -1. -/
structure PtSandbox extends Policy where
  pid : Int := -1
  isExit : Bool := false

/-! ### Numbers -/

def nrExit : Nat := 1
def nrRead : Nat := 3
def nrWrite : Nat := 4
def nrOpen : Nat := 5
def nrClose : Nat := 6
def nrUnlink : Nat := 10
def nrChdir : Nat := 12
def nrTime : Nat := 13
def nrChmod : Nat := 15
def nrLseek : Nat := 19
def nrAlarm : Nat := 27
def nrUtime : Nat := 30
def nrRename : Nat := 38
def nrMkdir : Nat := 39
def nrRmdir : Nat := 40
def nrBrk : Nat := 45
def nrFcntl : Nat := 55
def nrUmask : Nat := 60
def nrSigaction : Nat := 67
def nrGettimeofday : Nat := 78
def nrSelect : Nat := 82
def nrReadlink : Nat := 85
def nrFtruncate : Nat := 93
def nrFchmod : Nat := 94
def nrFchown : Nat := 95
def nrSocketcall : Nat := 102
def nrStat : Nat := 106
def nrLstat : Nat := 107
def nrFstat : Nat := 108
def nrSigreturn : Nat := 119
def nrMprotect : Nat := 125
def nrLlseek : Nat := 140
def nrGetdents : Nat := 141
def nrNewselect : Nat := 142
def nrNanosleep : Nat := 162
def nrMremap : Nat := 163
def nrRtSigaction : Nat := 174
def nrGetcwd : Nat := 183
def nrSendfile : Nat := 187
def nrMmap2 : Nat := 192
def nrFtruncate64 : Nat := 194
def nrStat64 : Nat := 195
def nrLstat64 : Nat := 196
def nrFstat64 : Nat := 197
def nrFchown32 : Nat := 207
def nrGetdents64 : Nat := 220
def nrFcntl64 : Nat := 221
def nrSendfile64 : Nat := 239
def nrExitGroup : Nat := 252
def nrUtimes : Nat := 271

def sysSocket : Nat := 1
def sysBind : Nat := 2
def sysConnect : Nat := 3
def sysListen : Nat := 4
def sysAccept : Nat := 5
def sysRecv : Nat := 10
def sysShutdown : Nat := 13
def sysSetsockopt : Nat := 14
def sysGetsockopt : Nat := 15

/-! ### What is permitted -/

namespace Policy

/-- `is_allowed` set for some calls. -/
def allow (pol : Policy) (calls : List Nat) : Policy :=
  { pol with isAllowed := fun n => n ∈ calls || pol.isAllowed n }

def validate (pol : Policy) (call : Nat) (v : Validator) : Policy :=
  { pol with validator := Function.update pol.validator call (some v) }

def permitExit (pol : Policy) : Policy := pol.allow [nrExit, nrExitGroup]

def permitRead (pol : Policy) : Policy := pol.allow [nrRead]

def permitWrite (pol : Policy) : Policy := pol.allow [nrWrite]

def permitSigaction (pol : Policy) : Policy := pol.allow [nrSigaction, nrRtSigaction]

def permitAlarm (pol : Policy) : Policy := pol.allow [nrAlarm]

def permitQueryTime (pol : Policy) : Policy := pol.allow [nrGettimeofday, nrTime]

def permitMmap (pol : Policy) : Policy := (pol.allow [nrMmap2]).validate nrMmap2 .mmap2

def permitMprotect (pol : Policy) : Policy := pol.allow [nrMprotect]

def permitFileStats (pol : Policy) : Policy := pol.allow [nrStat, nrStat64, nrLstat, nrLstat64]

def permitFdStats (pol : Policy) : Policy := pol.allow [nrFstat, nrFstat64]

def permitGetcwd (pol : Policy) : Policy := pol.allow [nrGetcwd]

def permitChdir (pol : Policy) : Policy := pol.allow [nrChdir]

def permitUmask (pol : Policy) : Policy := pol.allow [nrUmask]

def permitOpen (pol : Policy) (writeable : Bool) : Policy :=
  (pol.allow [nrOpen]).validate nrOpen (if writeable then .openDefault else .openReadonly)

def permitClose (pol : Policy) : Policy := pol.allow [nrClose]

def permitGetdents (pol : Policy) : Policy := pol.allow [nrGetdents, nrGetdents64]

def permitFcntl (pol : Policy) : Policy :=
  ((pol.allow [nrFcntl, nrFcntl64]).validate nrFcntl .fcntl).validate nrFcntl64 .fcntl

def permitSendfile (pol : Policy) : Policy := pol.allow [nrSendfile, nrSendfile64]

def permitSeek (pol : Policy) : Policy := pol.allow [nrLseek, nrLlseek]

def permitSelect (pol : Policy) : Policy := pol.allow [nrSelect, nrNewselect]

def permitUnlink (pol : Policy) : Policy := pol.allow [nrUnlink]

def permitMkdir (pol : Policy) : Policy := pol.allow [nrMkdir]

def permitRmdir (pol : Policy) : Policy := pol.allow [nrRmdir]

def permitRename (pol : Policy) : Policy := pol.allow [nrRename]

def permitUtime (pol : Policy) : Policy := pol.allow [nrUtime, nrUtimes]

def permitSigreturn (pol : Policy) : Policy := pol.allow [nrSigreturn]

def permitReadlink (pol : Policy) : Policy := pol.allow [nrReadlink]

def permitBrk (pol : Policy) : Policy := pol.allow [nrBrk]

def permitSleep (pol : Policy) : Policy := pol.allow [nrNanosleep]

def permitFchmod (pol : Policy) : Policy := pol.allow [nrFchmod]

def permitChmod (pol : Policy) : Policy := pol.allow [nrChmod]

def permitFchown (pol : Policy) : Policy := pol.allow [nrFchown, nrFchown32]

def permitMremap (pol : Policy) : Policy := pol.allow [nrMremap]

def permitFtruncate (pol : Policy) : Policy := pol.allow [nrFtruncate, nrFtruncate64]

def installSocketcall (pol : Policy) : Policy :=
  (pol.allow [nrSocketcall]).validate nrSocketcall .socketcall

/-- A call of the `socketcall` multiplexer. -/
def permitSocketcall (pol : Policy) (call : Nat) : Policy :=
  { pol.installSocketcall with
    isSocketcallAllowed := fun n => n = call || pol.isSocketcallAllowed n }

def setSocketcallValidator (pol : Policy) (call : Nat) (val : SocketcallValidator) : Policy :=
  { pol with socketcallValidator := Function.update pol.socketcallValidator call (some val) }

def permitRecv (pol : Policy) : Policy := pol.permitSocketcall sysRecv

def permitSocket (pol : Policy) : Policy := pol.permitSocketcall sysSocket

def setSocketValidator (pol : Policy) (val : SocketcallValidator) : Policy :=
  pol.setSocketcallValidator sysSocket val

def permitBind (pol : Policy) : Policy := pol.permitSocketcall sysBind

def setBindValidator (pol : Policy) (val : SocketcallValidator) : Policy :=
  pol.setSocketcallValidator sysBind val

def permitConnect (pol : Policy) : Policy := pol.permitSocketcall sysConnect

def setConnectValidator (pol : Policy) (val : SocketcallValidator) : Policy :=
  pol.setSocketcallValidator sysConnect val

def permitListen (pol : Policy) : Policy := pol.permitSocketcall sysListen

def permitAccept (pol : Policy) : Policy := pol.permitSocketcall sysAccept

def permitSetsockopt (pol : Policy) : Policy := pol.permitSocketcall sysSetsockopt

def setSetsockoptValidator (pol : Policy) (val : SocketcallValidator) : Policy :=
  pol.setSocketcallValidator sysSetsockopt val

def permitGetsockopt (pol : Policy) : Policy := pol.permitSocketcall sysGetsockopt

def setGetsockoptValidator (pol : Policy) (val : SocketcallValidator) : Policy :=
  pol.setSocketcallValidator sysGetsockopt val

def permitShutdown (pol : Policy) : Policy := pol.permitSocketcall sysShutdown

end Policy

/-! ## The check of a call -/

def mapShared : UInt32 := 1
def oAccmode : UInt32 := 3
def oRdonly : UInt32 := 0
def oAsync : UInt32 := 0x2000
def oDirect : UInt32 := 0x4000
def oSync : UInt32 := 0x101000

def fGetfd : UInt32 := 1
def fSetfd : UInt32 := 2
def fGetfl : UInt32 := 3
def fSetfl : UInt32 := 4
def fSetlk : UInt32 := 6
def fSetlkw : UInt32 := 7
def fSetown : UInt32 := 8
def fSetlk64 : UInt32 := 13
def fSetlkw64 : UInt32 := 14

def fcntlCommands : List UInt32 :=
  [fGetfl, fSetfl, fSetown, fSetlk, fSetlkw, fSetlk64, fSetlkw64, fSetfd, fGetfd]

def validateMmap2 (p : Stopped) : Except Int Unit := do
  let arg4 ← ptraceSandboxGetArg p 3
  if arg4 &&& mapShared ≠ 0 then .error (-1) else .ok ()

def validateOpenDefault (p : Stopped) : Except Int Unit := do
  let arg2 ← ptraceSandboxGetArg p 1
  if arg2 &&& (oAsync ||| oDirect ||| oSync) ≠ 0 then .error (-1) else .ok ()

def validateOpenReadonly (p : Stopped) : Except Int Unit := do
  validateOpenDefault p
  let arg2 ← ptraceSandboxGetArg p 1
  if arg2 &&& oAccmode ≠ oRdonly then .error (-1) else .ok ()

def validateFcntl (pid : Int) (p : Stopped) : Except Int Unit := do
  let arg2 ← ptraceSandboxGetArg p 1
  let arg3 ← ptraceSandboxGetArg p 2
  if arg2 ∉ fcntlCommands then .error (-1)
  else if arg2 = fSetfl ∧ arg3 &&& (oAsync ||| oDirect) ≠ 0 then .error (-2)
  else if arg2 = fSetown ∧ toInt32 arg3.toNat ≠ pid then .error (-3)
  else .ok ()

def validateSocketcall (pol : Policy) (p : Stopped) : Except Int Unit := do
  let arg1 ← ptraceSandboxGetArg p 0
  if arg1.toNat < 1 ∨ arg1.toNat ≥ nproto then .error (-1)
  else if pol.isSocketcallAllowed arg1.toNat = false then .error (-2)
  else
    match pol.socketcallValidator arg1.toNat with
    | none => .ok ()
    | some val =>
      match val p with
      | .ok () => .ok ()
      | .error _ => .error (-3)

def runValidator (sb : PtSandbox) (p : Stopped) : Validator → Except Int Unit
  | .mmap2 => validateMmap2 p
  | .openDefault => validateOpenDefault p
  | .openReadonly => validateOpenReadonly p
  | .fcntl => validateFcntl sb.pid p
  | .socketcall => validateSocketcall sb.toPolicy p

/-- What `get_action` makes of the registers. -/
def getAction (sb : PtSandbox) (p : Stopped) : Except Int Unit :=
  let call := p.regs.origEax
  if p.regs.xcs ≠ 0x73 ∧ p.regs.xcs ≠ 0x23 then .error ptraceSandboxErrBadSyscall
  else if call < 0 ∨ call ≥ maxSyscall then .error ptraceSandboxErrBadSyscall
  else if sb.isAllowed call.toNat = false then .error ptraceSandboxErrPolicySyscall
  else
    match sb.validator call.toNat with
    | none => .ok ()
    | some v =>
      match runValidator sb p v with
      | .ok () => .ok ()
      | .error _ => .error ptraceSandboxErrPolicyArgs

/-! ## What is read -/

/-- The memory of the process can be read there. -/
def Readable (p : Stopped) (ptr len : Nat) : Prop :=
  ∀ k, 4 * k < len → p.peekErrno (ulong (ptr + 4 * k)) = none

/-- The bytes in the memory of the process. -/
def Stopped.bytes (p : Stopped) (ptr len : Nat) : Bytes :=
  (List.range len).map fun i => p.memory (ulong (ptr + i))

/-- An argument of a socket call is a word in memory. -/
def SocketArg (p : Stopped) (arg : Nat) (v : UInt32) : Prop :=
  Readable p (ulong (p.regs.ecx.toNat + arg * 4)) sizeofLong ∧
    word (p.bytes (ulong (p.regs.ecx.toNat + arg * 4)) sizeofLong) = v

section
variable {p : Stopped} {ptr len : Nat}

/-- With a whole number of words the buffer is filled. -/
theorem getBuf_readable (hptr : ptr < 2 ^ 32) (hlen : len < 2 ^ 32) (hwhole : len % 4 = 0)
    (h : Readable p ptr len) : getBuf p ptr len = .ok (p.bytes ptr len) := by
  have hwords : ptraceSandboxGetBuf (p.tracee ptr) ptr len (len / 4) =
      afterWords (p.tracee ptr) ptr len (len / 4) :=
    getBuf_words hptr hlen (by omega) fun k hk => h k (by omega)
  have hlast : ptraceSandboxGetBuf (p.tracee ptr) ptr len (len / sizeofLong + 1) =
      { afterWords (p.tracee ptr) ptr len (len / 4) with ret := some 0 } := by
    show turn (p.tracee ptr) (ptraceSandboxGetBuf (p.tracee ptr) ptr len (len / 4)) = _
    rw [hwords]
    unfold turn
    rw [if_neg (by simp [afterWords]),
      if_pos ((afterWords_len_eq_zero hlen (by omega)).mpr (by omega))]
  unfold getBuf
  dsimp only
  rw [hlast]
  dsimp only
  apply congrArg Except.ok
  unfold Stopped.bytes
  apply List.map_congr_left
  intro i hi
  rw [List.mem_range] at hi
  show (if i < min (4 * (len / 4)) len then some (p.memory (ulong (ptr + i))) else none).getD 0 = _
  rw [if_pos (by omega)]
  rfl

theorem getBuf_unreadable (hptr : ptr < 2 ^ 32) (hlen : len < 2 ^ 32) (hwhole : len % 4 = 0)
    (h : ¬ Readable p ptr len) : ∃ err, getBuf p ptr len = .error err := by
  obtain ⟨n, hn⟩ : ∃ n, StopsAfter (p.tracee ptr) len n := exists_stopsAfter (.inl hwhole)
  rcases hn.last with hfull | ⟨hpart, errno, herrno⟩
  · exact absurd (fun k hk => hn.words k (by omega)) h
  · have hturn : ptraceSandboxGetBuf (p.tracee ptr) ptr len (n + 1) =
        turn (p.tracee ptr) (afterWords (p.tracee ptr) ptr len n) := by
      rw [ptraceSandboxGetBuf, getBuf_words hptr hlen hn.within hn.words]
    have hleft : (afterWords (p.tracee ptr) ptr len n).len ≠ 0 :=
      fun hzero => hpart ((afterWords_len_eq_zero hlen hn.within).mp hzero)
    rw [turn_failed rfl hleft herrno] at hturn
    have hwithin := hn.within
    have hlast : ptraceSandboxGetBuf (p.tracee ptr) ptr len (len / sizeofLong + 1) = _ :=
      (getBuf_returned (by rw [hturn]; exact Option.some_ne_none _)
        (by unfold sizeofLong; omega)).trans hturn
    unfold getBuf
    dsimp only
    rw [hlast]
    dsimp only
    split_ifs
    · exact ⟨_, rfl⟩
    · exact ⟨_, rfl⟩

theorem getBuf_eq_ok_iff (hptr : ptr < 2 ^ 32) (hlen : len < 2 ^ 32) (hwhole : len % 4 = 0)
    {b : Bytes} : getBuf p ptr len = .ok b ↔ Readable p ptr len ∧ p.bytes ptr len = b := by
  by_cases h : Readable p ptr len
  · rw [getBuf_readable hptr hlen hwhole h]
    simp [h]
  · obtain ⟨err, herr⟩ := getBuf_unreadable hptr hlen hwhole h
    rw [herr]
    simp [h]

theorem getSocketcallArg_eq_ok_iff (hcall : p.regs.origEax ≠ 0) (arg : Nat) (harg : arg ≤ 2)
    {v : UInt32} : ptraceSandboxGetSocketcallArg p arg = .ok v ↔ SocketArg p arg v := by
  have hptr : ptraceSandboxGetArg p 1 = .ok p.regs.ecx := if_neg hcall
  have hlt : ulong (p.regs.ecx.toNat + arg * 4) < 2 ^ 32 := Nat.mod_lt _ (by decide)
  unfold ptraceSandboxGetSocketcallArg ptraceSandboxGetLong SocketArg
  rw [if_neg hcall, if_neg (by omega), hptr, ok_bind, bind_eq_ok_iff]
  constructor
  · intro h
    obtain ⟨b, hb, hword⟩ := h
    obtain ⟨hreadable, hbytes⟩ := (getBuf_eq_ok_iff hlt (by decide) rfl).mp hb
    rw [← hbytes] at hword
    exact ⟨hreadable, Except.ok.inj hword⟩
  · intro h
    exact ⟨_, getBuf_readable hlt (by decide) rfl h.1, congrArg Except.ok h.2⟩

end

end Vsftpd.PtraceSandbox
