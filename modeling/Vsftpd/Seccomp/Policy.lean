import Vsftpd.Seccomp.FirstMatch
import Vsftpd.Session.State

/-!
# The rules of each process

`seccomp_sandbox_setup_prelogin()`, `_postlogin()` and `_postlogin_broker()` call the
helpers of the rule table in an order that depends on the configuration; here they are
the lists of these calls.  The numbers are those of x86-64.
-/

namespace Vsftpd.Seccomp

open Vsftpd.Session (Tunables VsfSession)

/-- The tunables that only the policy and the code before the sandbox read are added to
those of the session. -/
structure PolicyTunables extends Tunables where
  xferlogEnable : Bool := false
  dualLogEnable : Bool := false
  syslogEnable : Bool := false
  useSendfile : Bool := true
  textUserdbNames : Bool := false

/-! ## The kernel's numbers -/

def nrRead : Int32 := 0
def nrWrite : Int32 := 1
def nrOpen : Int32 := 2
def nrClose : Int32 := 3
def nrStat : Int32 := 4
def nrFstat : Int32 := 5
def nrLstat : Int32 := 6
def nrLseek : Int32 := 8
def nrMmap : Int32 := 9
def nrMprotect : Int32 := 10
def nrMunmap : Int32 := 11
def nrBrk : Int32 := 12
def nrRtSigaction : Int32 := 13
def nrRtSigreturn : Int32 := 15
def nrSelect : Int32 := 23
def nrMremap : Int32 := 25
def nrNanosleep : Int32 := 35
def nrAlarm : Int32 := 37
def nrGetpid : Int32 := 39
def nrSendfile : Int32 := 40
def nrSocket : Int32 := 41
def nrConnect : Int32 := 42
def nrAccept : Int32 := 43
def nrSendto : Int32 := 44
def nrRecvfrom : Int32 := 45
def nrSendmsg : Int32 := 46
def nrRecvmsg : Int32 := 47
def nrShutdown : Int32 := 48
def nrBind : Int32 := 49
def nrListen : Int32 := 50
def nrSetsockopt : Int32 := 54
def nrGetsockopt : Int32 := 55
def nrFcntl : Int32 := 72
def nrFtruncate : Int32 := 77
def nrGetdents : Int32 := 78
def nrGetcwd : Int32 := 79
def nrChdir : Int32 := 80
def nrRename : Int32 := 82
def nrMkdir : Int32 := 83
def nrRmdir : Int32 := 84
def nrUnlink : Int32 := 87
def nrReadlink : Int32 := 89
def nrChmod : Int32 := 90
def nrFchmod : Int32 := 91
def nrFchown : Int32 := 93
def nrUmask : Int32 := 95
def nrGettimeofday : Int32 := 96
def nrUtime : Int32 := 132
def nrRestartSyscall : Int32 := 219
def nrExitGroup : Int32 := 231
def nrUtimes : Int32 := 235
def nrOpenat : Int32 := 257

def oRdonly : Int32 := 0
def oWronly : Int32 := 1
def oRdwr : Int32 := 2
def oAccmode : Int32 := 3
def oCreat : Int32 := 0o100
def oExcl : Int32 := 0o200
def oTrunc : Int32 := 0o1000
def oAppend : Int32 := 0o2000
def oNonblock : Int32 := 0o4000
def oLargefile : Int32 := 0o100000
def oDirectory : Int32 := 0o200000
def oCloexec : Int32 := 0o2000000

def fGetfl : Int32 := 3
def fSetfl : Int32 := 4
def fSetlk : Int32 := 6
def fSetlkw : Int32 := 7
def fSetown : Int32 := 8

def protRead : Int32 := 1
def protWrite : Int32 := 2
def mapShared : Int32 := 1
def mapPrivate : Int32 := 2
def mapAnon : Int32 := 0x20

def pfInet : Int32 := 2
def pfInet6 : Int32 := 10
def sockStream : Int32 := 1
def ipprotoIp : Int32 := 0
def ipprotoTcp : Int32 := 6
def solSocket : Int32 := 1
def soReuseaddr : Int32 := 2
def soError : Int32 := 4
def soKeepalive : Int32 := 9
def soLinger : Int32 := 13
def ipTos : Int32 := 1
def tcpNodelay : Int32 := 1
def msgPeek : Int32 := 2

def eacces : Int32 := 13
def enosys : Int32 := 38

/-! ## The setup functions -/

def kOpenFlags : Int32 :=
  oCreat ||| oExcl ||| oAppend ||| oNonblock ||| oDirectory ||| oCloexec ||| oLargefile

/-- Rules that depend on the configuration. -/
def given (enabled : Bool) (calls : List Call) : List Call := if enabled then calls else []

def seccompSandboxSetupDataConnections (cfg : PolicyTunables) : List Call :=
  ([.threeMatch nrSocket 1 pfInet 2 sockStream 3 ipprotoTcp,
    .threeMatch nrSocket 1 pfInet6 2 sockStream 3 ipprotoTcp,
    .allow nrBind,
    .allow nrSelect] : List Call) ++
  given cfg.portEnable
    [.allow nrConnect,
     .twoMatch nrGetsockopt 2 solSocket 3 soError,
     .twoMatch nrSetsockopt 2 solSocket 3 soReuseaddr,
     .oneMatch nrFcntl 2 fGetfl,
     .twoMatch nrFcntl 2 fSetfl 3 (oRdwr ||| oNonblock),
     .twoMatch nrFcntl 2 fSetfl 3 oRdwr] ++
  given cfg.pasvEnable
    [.allow nrListen,
     .allow nrAccept]

def seccompSandboxSetupBase : List Call :=
  [.allow nrRead,
   .allow nrWrite,
   .twoMatch nrMmap 3 (protRead ||| protWrite) 4 (mapPrivate ||| mapAnon),
   .oneMask nrMprotect 3 protRead,
   .allow nrMunmap,
   .allow nrBrk,
   .reject nrMremap enosys,
   .allow nrGettimeofday,
   .allow nrRtSigreturn,
   .allow nrRestartSyscall,
   .allow nrClose,
   .allow nrExitGroup]

def seccompSandboxSetupPrelogin (cfg : PolicyTunables) : List Call :=
  seccompSandboxSetupBase ++
  ([.oneMatch nrRecvfrom 4 msgPeek,
    .allow nrNanosleep,
    .allow nrGetpid,
    .allow nrShutdown,
    .oneMatch nrFcntl 2 fGetfl,
    .twoMaskMatch nrFcntl 3 (kOpenFlags ||| oAccmode) 2 fSetfl] : List Call) ++
  given (cfg.idleSessionTimeout > 0)
    [.allow nrRtSigaction,
     .allow nrAlarm] ++
  given (cfg.xferlogEnable || cfg.dualLogEnable)
    [.oneMatch nrFcntl 2 fSetlkw,
     .oneMatch nrFcntl 2 fSetlk] ++
  given cfg.sslEnable
    [.oneMatch nrRecvmsg 3 0,
     .twoMatch nrSetsockopt 2 ipprotoTcp 3 tcpNodelay] ++
  given cfg.syslogEnable
    [.reject nrSocket eacces]

def openFlag (cfg : PolicyTunables) : Int32 :=
  if cfg.writeEnable then kOpenFlags ||| oAccmode else kOpenFlags

/-- The rules for the calls that write, all behind `write_enable`. -/
def writeRules (cfg : PolicyTunables) (isAnon : Bool) : List Call :=
  given (!isAnon || cfg.anonMkdirWriteEnable)
    [.allow nrMkdir] ++
  given (!isAnon || cfg.anonOtherWriteEnable || cfg.deleteFailedUploads)
    [.allow nrUnlink] ++
  given (!isAnon || cfg.anonOtherWriteEnable)
    (([.allow nrRmdir,
       .allow nrRename,
       .allow nrFtruncate] : List Call) ++
     given cfg.mdtmWrite
      [.allow nrUtime,
       .allow nrUtimes]) ++
  given (!isAnon && cfg.chmodEnable)
    [.allow nrChmod]

/-- In one process the session makes its own data connections; in two it exchanges
descriptors with the broker. -/
def modelRules (cfg : PolicyTunables) (isAnon : Bool) : List Call :=
  if cfg.oneProcessModel then
    seccompSandboxSetupDataConnections cfg ++
    given (isAnon && cfg.chownUploads)
      [.allow nrFchmod,
       .allow nrFchown]
  else
    ([.oneMatch nrRecvmsg 3 0] : List Call) ++
    given ((isAnon && cfg.chownUploads) || cfg.sslEnable)
      [.oneMatch nrSendmsg 3 0]

/-- `pid` is the result of `getpid()`. -/
def seccompSandboxSetupPostlogin (cfg : PolicyTunables) (pid : Int32) (sess : VsfSession) :
    List Call :=
  ([.allow nrLstat] : List Call) ++
  seccompSandboxSetupPrelogin cfg ++
  given (cfg.xferlogEnable || cfg.dualLogEnable || cfg.lockUploadFiles)
    [.oneMatch nrFcntl 2 fSetlkw,
     .oneMatch nrFcntl 2 fSetlk] ++
  given cfg.asyncAborEnable
    [.twoMatch nrFcntl 2 fSetown 3 pid] ++
  ([.twoMatch nrSetsockopt 2 solSocket 3 soKeepalive,
    .twoMatch nrSetsockopt 2 solSocket 3 soLinger,
    .twoMatch nrSetsockopt 2 ipprotoIp 3 ipTos,
    .allow nrFstat,
    .allow nrLseek] : List Call) ++
  ([.oneMask nrOpen 2 (openFlag cfg),
    .oneMask nrOpenat 3 (openFlag cfg)] : List Call) ++
  ([.allow nrStat,
    .allow nrReadlink,
    .allow nrGetcwd,
    .allow nrChdir,
    .allow nrGetdents,
    .allow nrUmask] : List Call) ++
  given cfg.useSendfile
    [.allow nrSendfile] ++
  given (cfg.idleSessionTimeout > 0 || cfg.dataConnectionTimeout > 0 || cfg.asyncAborEnable)
    [.allow nrRtSigaction] ++
  given (cfg.idleSessionTimeout > 0 || cfg.dataConnectionTimeout > 0)
    [.allow nrAlarm] ++
  modelRules cfg sess.isAnonymous ++
  given cfg.syslogEnable
    [.oneMatch nrSendto 6 0] ++
  given cfg.textUserdbNames
    [.reject nrSocket eacces,
     .twoMatch nrMmap 3 protRead 4 mapShared] ++
  given cfg.writeEnable (writeRules cfg sess.isAnonymous)

def seccompSandboxSetupPostloginBroker (cfg : PolicyTunables) : List Call :=
  seccompSandboxSetupBase ++
  seccompSandboxSetupDataConnections cfg ++
  ([.oneMatch nrSendmsg 3 0] : List Call)

/-! ## The table has room for the rules -/

theorem mem_given {enabled : Bool} {calls : List Call} {c : Call} :
    c ∈ given enabled calls ↔ enabled = true ∧ c ∈ calls := by
  unfold given
  split_ifs with h
  · simp [h]
  · simp [h]

theorem forall_mem_given {enabled : Bool} {calls : List Call} {P : Call → Prop} :
    (∀ c ∈ given enabled calls, P c) ↔ (enabled = true → ∀ c ∈ calls, P c) := by
  simp only [mem_given, and_imp]
  constructor
  · exact fun h henabled c => h c henabled
  · exact fun h c henabled => h henabled c

theorem length_given (enabled : Bool) (calls : List Call) :
    (given enabled calls).length = enabled.toNat * calls.length := by
  cases enabled with
  | true => exact (Nat.one_mul _).symm
  | false => exact (Nat.zero_mul _).symm

theorem length_dataConnections_le (cfg : PolicyTunables) :
    (seccompSandboxSetupDataConnections cfg).length ≤ 12 := by
  unfold seccompSandboxSetupDataConnections
  simp only [List.length_append, length_given, List.length_cons, List.length_nil]
  grind [Bool.toNat_le]

theorem length_prelogin_le (cfg : PolicyTunables) :
    (seccompSandboxSetupPrelogin cfg).length ≤ 25 := by
  unfold seccompSandboxSetupPrelogin seccompSandboxSetupBase
  simp only [List.length_append, length_given, List.length_cons, List.length_nil]
  grind [Bool.toNat_le]

theorem length_modelRules_le (cfg : PolicyTunables) (isAnon : Bool) :
    (modelRules cfg isAnon).length ≤ 14 := by
  have hdata := length_dataConnections_le cfg
  unfold modelRules
  split_ifs
  · simp only [List.length_append, length_given, List.length_cons, List.length_nil]
    grind [Bool.toNat_le]
  · simp only [List.length_append, length_given, List.length_cons, List.length_nil]
    grind [Bool.toNat_le]

theorem length_writeRules_le (cfg : PolicyTunables) (isAnon : Bool) :
    (writeRules cfg isAnon).length ≤ 8 := by
  unfold writeRules
  simp only [List.length_append, length_given, List.length_cons, List.length_nil]
  cases cfg.mdtmWrite <;> grind [Bool.toNat_le]

theorem length_postlogin_le (cfg : PolicyTunables) (pid : Int32) (sess : VsfSession) :
    (seccompSandboxSetupPostlogin cfg pid sess).length ≤ kMaxSyscalls := by
  have hprelogin := length_prelogin_le cfg
  have hmodel := length_modelRules_le cfg sess.isAnonymous
  have hwrite : cfg.writeEnable.toNat * (writeRules cfg sess.isAnonymous).length ≤ 8 :=
    Nat.mul_le_mul (Bool.toNat_le _) (length_writeRules_le cfg sess.isAnonymous)
  unfold seccompSandboxSetupPostlogin kMaxSyscalls
  simp only [List.length_append, length_given, List.length_cons, List.length_nil]
  grind [Bool.toNat_le]

/-! ## Going through the rules -/

def everyTunable : PolicyTunables where
  portEnable := true
  pasvEnable := true
  sslEnable := true
  idleSessionTimeout := 1
  xferlogEnable := true
  syslogEnable := true

/-- The rules of the session that no number of the configuration appears in, apart from
those for data connections and for writing. -/
def commonRules : List Call :=
  seccompSandboxSetupPrelogin everyTunable ++
  ([.allow nrLstat,
    .twoMatch nrSetsockopt 2 solSocket 3 soKeepalive,
    .twoMatch nrSetsockopt 2 solSocket 3 soLinger,
    .twoMatch nrSetsockopt 2 ipprotoIp 3 ipTos,
    .allow nrFstat,
    .allow nrLseek,
    .allow nrStat,
    .allow nrReadlink,
    .allow nrGetcwd,
    .allow nrChdir,
    .allow nrGetdents,
    .allow nrUmask,
    .allow nrSendfile,
    .oneMatch nrSendto 6 0,
    .twoMatch nrMmap 3 protRead 4 mapShared] : List Call)

section
variable {P : Call → Prop} {cfg : PolicyTunables} {pid : Int32} {sess : VsfSession}

theorem forall_mem_dataConnections
    (h : ∀ c ∈ seccompSandboxSetupDataConnections everyTunable, P c) :
    ∀ c ∈ seccompSandboxSetupDataConnections cfg, P c := by
  have hsub {l : List Call} (hl : l ⊆ seccompSandboxSetupDataConnections everyTunable) :
      ∀ c ∈ l, P c := fun c hc => h c (hl hc)
  simp only [seccompSandboxSetupDataConnections, List.forall_mem_append, forall_mem_given]
  exact ⟨⟨hsub (by decide), fun _ => hsub (by decide)⟩, fun _ => hsub (by decide)⟩

theorem forall_mem_prelogin (h : ∀ c ∈ seccompSandboxSetupPrelogin everyTunable, P c) :
    ∀ c ∈ seccompSandboxSetupPrelogin cfg, P c := by
  have hsub {l : List Call} (hl : l ⊆ seccompSandboxSetupPrelogin everyTunable) :
      ∀ c ∈ l, P c := fun c hc => h c (hl hc)
  simp only [seccompSandboxSetupPrelogin, List.forall_mem_append, forall_mem_given]
  exact ⟨⟨⟨⟨⟨hsub (by decide), hsub (by decide)⟩, fun _ => hsub (by decide)⟩,
    fun _ => hsub (by decide)⟩, fun _ => hsub (by decide)⟩, fun _ => hsub (by decide)⟩

/-- The rules of the session are the common ones, those that carry a number of the
configuration or of the process, and those that the model and the session decide about. -/
theorem forall_mem_postlogin (hcommon : ∀ c ∈ commonRules, P c)
    (hsetown : P (.twoMatch nrFcntl 2 fSetown 3 pid))
    (hopen : P (.oneMask nrOpen 2 (openFlag cfg)))
    (hopenat : P (.oneMask nrOpenat 3 (openFlag cfg)))
    (hmodel : ∀ c ∈ modelRules cfg sess.isAnonymous, P c)
    (hwrite : cfg.writeEnable = true → ∀ c ∈ writeRules cfg sess.isAnonymous, P c) :
    ∀ c ∈ seccompSandboxSetupPostlogin cfg pid sess, P c := by
  have hsub {l : List Call} (hl : l ⊆ commonRules) : ∀ c ∈ l, P c := fun c hc => hcommon c (hl hc)
  simp only [seccompSandboxSetupPostlogin, List.forall_mem_append, forall_mem_given]
  refine ⟨⟨⟨⟨⟨⟨⟨⟨⟨⟨⟨⟨⟨?_, ?_⟩, ?_⟩, ?_⟩, ?_⟩, ?_⟩, ?_⟩, ?_⟩, ?_⟩, ?_⟩, hmodel⟩, ?_⟩, ?_⟩, hwrite⟩
  · exact hsub (by decide)
  · exact forall_mem_prelogin (hsub (List.subset_append_left _ _))
  · exact fun _ => hsub (by decide)
  · exact fun _ => List.forall_mem_singleton.mpr hsetown
  · exact hsub (by decide)
  · exact List.forall_mem_cons.mpr ⟨hopen, List.forall_mem_singleton.mpr hopenat⟩
  · exact hsub (by decide)
  · exact fun _ => hsub (by decide)
  · exact fun _ => hsub (by decide)
  · exact fun _ => hsub (by decide)
  · exact fun _ => hsub (by decide)
  · exact fun _ => hsub (by decide)

theorem forall_mem_broker
    (h : ∀ c ∈ seccompSandboxSetupPostloginBroker everyTunable, P c) :
    ∀ c ∈ seccompSandboxSetupPostloginBroker cfg, P c := by
  have hsub {l : List Call} (hl : l ⊆ seccompSandboxSetupPostloginBroker everyTunable) :
      ∀ c ∈ l, P c := fun c hc => h c (hl hc)
  simp only [seccompSandboxSetupPostloginBroker, List.forall_mem_append]
  exact ⟨⟨hsub (by decide), forall_mem_dataConnections (hsub (by decide))⟩, hsub (by decide)⟩

theorem forall_mem_modelRules {isAnon : Bool}
    (hdata : cfg.oneProcessModel = true →
      ∀ c ∈ seccompSandboxSetupDataConnections everyTunable, P c)
    (hchown : cfg.oneProcessModel = true → isAnon = true → cfg.chownUploads = true →
      P (.allow nrFchmod) ∧ P (.allow nrFchown))
    (hmsg : P (.oneMatch nrRecvmsg 3 0) ∧ P (.oneMatch nrSendmsg 3 0)) :
    ∀ c ∈ modelRules cfg isAnon, P c := by
  unfold modelRules
  split_ifs with hone
  · simp only [List.forall_mem_append, forall_mem_given, Bool.and_eq_true]
    refine ⟨forall_mem_dataConnections (hdata hone), fun h => ?_⟩
    have hboth := hchown hone h.1 h.2
    exact List.forall_mem_cons.mpr ⟨hboth.1, List.forall_mem_singleton.mpr hboth.2⟩
  · simp only [List.forall_mem_append, forall_mem_given, List.forall_mem_singleton]
    exact ⟨hmsg.1, fun _ => hmsg.2⟩

theorem forall_mem_writeRules {isAnon : Bool} (h : ∀ c ∈ writeRules everyTunable false, P c) :
    ∀ c ∈ writeRules cfg isAnon, P c := by
  have hsub {l : List Call} (hl : l ⊆ writeRules everyTunable false) : ∀ c ∈ l, P c :=
    fun c hc => h c (hl hc)
  simp only [writeRules, List.forall_mem_append, forall_mem_given]
  exact ⟨⟨⟨fun _ => hsub (by decide), fun _ => hsub (by decide)⟩,
    fun _ => ⟨hsub (by decide), fun _ => hsub (by decide)⟩⟩, fun _ => hsub (by decide)⟩

end

/-! ## The filter of a process -/

theorem admissible_oneMask {nr arg mask : Int32} (hnr : 0 ≤ nr) (harg : 1 ≤ arg ∧ arg ≤ 6) :
    (Call.oneMask nr arg mask).Admissible where
  nr := hnr
  args := by
    intro k hk
    rw [List.mem_singleton.mp hk]
    exact harg
  errcode := by simp [Call.errcodes]

theorem admissible_postlogin (cfg : PolicyTunables) (pid : Int32) (sess : VsfSession) :
    ∀ c ∈ seccompSandboxSetupPostlogin cfg pid sess, c.Admissible := by
  have hsetown : (Call.twoMatch nrFcntl 2 fSetown 3 pid).Admissible := by
    refine ⟨(by decide : 0 ≤ nrFcntl), ?_, by simp [Call.errcodes]⟩
    simp only [Call.constraints, List.forall_mem_cons, Constraint.arg]
    decide
  refine forall_mem_postlogin (by decide) hsetown
    (admissible_oneMask (by decide) (by decide)) (admissible_oneMask (by decide) (by decide))
    (forall_mem_modelRules (fun _ => by decide) (fun _ _ _ => by decide) (by decide))
    fun _ => forall_mem_writeRules (by decide)

theorem admissible_broker (cfg : PolicyTunables) :
    ∀ c ∈ seccompSandboxSetupPostloginBroker cfg, c.Admissible :=
  forall_mem_broker (by decide)

theorem length_broker_le (cfg : PolicyTunables) :
    (seccompSandboxSetupPostloginBroker cfg).length ≤ kMaxSyscalls := by
  have hdata := length_dataConnections_le cfg
  unfold seccompSandboxSetupPostloginBroker seccompSandboxSetupBase kMaxSyscalls
  simp only [List.length_append, List.length_cons, List.length_nil]
  omega

/-- The setup of the session hits no `bug()`, and its filter decides as its rules say. -/
theorem postlogin_filter (cfg : PolicyTunables) (pid : Int32) (sess : VsfSession) :
    ∃ t, buildTable (seccompSandboxSetupPostlogin cfg pid sess) = .ok t ∧
      ∀ d : SeccompData, (Lib.Bpf.run d.load (filterCode t)).bind Verdict.ofRet =
        some (firstMatch (seccompSandboxSetupPostlogin cfg pid sess) d) :=
  ⟨_, buildTable_ok (admissible_postlogin cfg pid sess) (length_postlogin_le cfg pid sess),
    run_filterCode (admissible_postlogin cfg pid sess)⟩

theorem broker_filter (cfg : PolicyTunables) :
    ∃ t, buildTable (seccompSandboxSetupPostloginBroker cfg) = .ok t ∧
      ∀ d : SeccompData, (Lib.Bpf.run d.load (filterCode t)).bind Verdict.ofRet =
        some (firstMatch (seccompSandboxSetupPostloginBroker cfg) d) :=
  ⟨_, buildTable_ok (admissible_broker cfg) (length_broker_le cfg),
    run_filterCode (admissible_broker cfg)⟩

/-! ## Which rule decides -/

/-- A call that is allowed is allowed by one of the rules. -/
theorem exists_rule_of_allow {calls : List Call} {d : SeccompData}
    (h : firstMatch calls d = .allow) : ∃ c ∈ calls, c.Matches d ∧ c.verdict = .allow := by
  unfold firstMatch at h
  split_ifs at h
  cases hfind : calls.find? (fun c => c.Matches d) with
  | none =>
      rw [hfind] at h
      exact absurd h (by decide)
  | some c =>
      rw [hfind] at h
      have hmatch := List.find?_some hfind
      exact ⟨c, List.mem_of_find?_eq_some hfind, of_decide_eq_true hmatch, h⟩

/-- A rule that allows a call decides about it, where no rule rejects the same number. -/
theorem allow_of_rule {calls : List Call} {d : SeccompData} {c : Call}
    (harch : d.arch = auditArchX8664) (hc : c ∈ calls) (hmatch : c.Matches d)
    (hnone : ∀ c' ∈ calls, c'.nr = c.nr → c'.verdict = .allow) : firstMatch calls d = .allow := by
  unfold firstMatch
  rw [if_neg (not_not_intro harch)]
  cases hfind : calls.find? (fun c => c.Matches d) with
  | none =>
      have hno := List.find?_eq_none.mp hfind c hc
      exact absurd (decide_eq_true hmatch) hno
  | some c' =>
      have hfound := List.find?_some hfind
      have hmatch' : c'.Matches d := of_decide_eq_true hfound
      have hnr : c'.nr.toUInt32 = c.nr.toUInt32 := hmatch'.1.symm.trans hmatch.1
      exact hnone c' (List.mem_of_find?_eq_some hfind) (congrArg Int32.ofUInt32 hnr)

end Vsftpd.Seccomp
