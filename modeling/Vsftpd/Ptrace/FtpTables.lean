import Vsftpd.Ptrace.FtpPolicy

/-!
# The tables of a session's policy

Which entries `policy_setup` has set when it is done.
-/

namespace Vsftpd.PtraceSandbox

open Vsftpd.Session (VsfSession)
open Vsftpd.Seccomp (PolicyTunables)

section
variable {cfg : PolicyTunables} {sess : VsfSession} {pol : Policy} {n : Nat}

theorem isAllowed_allow {calls : List Nat} :
    (pol.allow calls).isAllowed n = true ↔ n ∈ calls ∨ pol.isAllowed n = true := by
  show (decide (n ∈ calls) || pol.isAllowed n) = true ↔ _
  rw [Bool.or_eq_true, decide_eq_true_iff]

theorem isAllowed_validate {call : Nat} {v : Validator} :
    (pol.validate call v).isAllowed n = true ↔ pol.isAllowed n = true :=
  Iff.rfl

theorem isAllowed_socketcall {call : Nat} :
    (pol.permitSocketcall call).isAllowed n = true ↔
      n ∈ [nrSocketcall] ∨ pol.isAllowed n = true :=
  isAllowed_allow

theorem isAllowed_socketcallValidator {call : Nat} {val : SocketcallValidator} :
    (pol.setSocketcallValidator call val).isAllowed n = true ↔ pol.isAllowed n = true :=
  Iff.rfl

theorem more_ite (g : Policy → Bool) {c : Prop} [Decidable c] {f : Policy → Policy} {q : Prop}
    (h : g (f pol) = true ↔ q ∨ g pol = true) :
    g (if c then f pol else pol) = true ↔ c ∧ q ∨ g pol = true := by
  by_cases hc : c
  · rw [if_pos hc, h]
    simp [hc]
  · rw [if_neg hc]
    simp [hc]

theorem mem_congr {l l' : List Nat} (h : l ⊆ l') (h' : l' ⊆ l) : n ∈ l ↔ n ∈ l' :=
  ⟨fun hn => h hn, fun hn => h' hn⟩

theorem setupBase_isAllowed :
    (setupBase cfg pol).isAllowed n = true ↔
      HasTimeout cfg ∧ n ∈ [nrAlarm] ∨
      (cfg.asyncAborEnable = true ∨ HasTimeout cfg) ∧ n ∈ [nrSigaction, nrRtSigaction] ∨
      cfg.textUserdbNames = true ∧ n ∈ [nrMremap] ∨
      n ∈ plainCalls ∨ n ∈ [nrMmap2, nrOpen, nrFcntl, nrFcntl64, nrSocketcall] ∨
      pol.isAllowed n = true := by
  unfold setupBase
  dsimp only
  rw [more_ite (Policy.isAllowed · n) (f := Policy.permitAlarm) isAllowed_allow,
    more_ite (Policy.isAllowed · n) (f := Policy.permitSigaction) isAllowed_allow,
    more_ite (Policy.isAllowed · n) (f := Policy.permitMremap) isAllowed_allow]
  refine or_congr_right (or_congr_right (or_congr_right ?_))
  simp only [Policy.permitExit, Policy.permitMmap, Policy.permitMprotect, Policy.permitBrk,
    Policy.permitRead, Policy.permitWrite, Policy.permitRecv, Policy.permitQueryTime,
    Policy.permitOpen, Policy.permitClose, Policy.permitFileStats, Policy.permitReadlink,
    Policy.permitGetcwd, Policy.permitChdir, Policy.permitGetdents, Policy.permitFdStats,
    Policy.permitSeek, Policy.permitShutdown, Policy.permitFcntl, Policy.permitSetsockopt,
    Policy.setSetsockoptValidator, Policy.permitUmask, Policy.permitSelect,
    Policy.permitSigreturn, Policy.permitSleep, Policy.permitSendfile, isAllowed_allow,
    isAllowed_validate, isAllowed_socketcall, isAllowed_socketcallValidator, ← or_assoc,
    ← List.mem_append]
  exact or_congr_left (mem_congr (by decide) (by decide))

theorem setupNetwork_isAllowed :
    (setupNetwork cfg sess pol).isAllowed n = true ↔
      n ∈ [nrSocketcall] ∨ pol.isAllowed n = true := by
  unfold setupNetwork setupPort
  dsimp only
  split_ifs <;>
    simp only [Policy.permitSocket, Policy.setSocketValidator, Policy.permitBind,
      Policy.setBindValidator, Policy.permitConnect, Policy.setConnectValidator,
      Policy.permitGetsockopt, Policy.setGetsockoptValidator, Policy.permitListen,
      Policy.permitAccept, isAllowed_socketcall, isAllowed_socketcallValidator, ← or_assoc, or_self]

theorem setupWrite_isAllowed {isAnon : Bool} :
    (setupWrite cfg isAnon pol).isAllowed n = true ↔
      cfg.writeEnable = true ∧
        ((isAnon && cfg.chownUploads) = true ∧ n ∈ [nrFchmod, nrFchown, nrFchown32] ∨
        (!isAnon && cfg.chmodEnable) = true ∧ n ∈ [nrChmod] ∨
        (!isAnon || cfg.anonOtherWriteEnable) = true ∧
          (cfg.mdtmWrite = true ∧ n ∈ [nrUtime, nrUtimes] ∨
            n ∈ [nrUnlink, nrRmdir, nrRename, nrFtruncate, nrFtruncate64]) ∨
        (!isAnon || cfg.anonMkdirWriteEnable) = true ∧ n ∈ [nrMkdir] ∨
        (!isAnon || cfg.anonUploadEnable) = true ∧ n ∈ [nrOpen]) ∨
      pol.isAllowed n = true := by
  have hchown (pol : Policy) : pol.permitFchmod.permitFchown.isAllowed n = true ↔
      n ∈ [nrFchmod, nrFchown, nrFchown32] ∨ pol.isAllowed n = true := by
    unfold Policy.permitFchmod Policy.permitFchown
    rw [isAllowed_allow, isAllowed_allow, ← or_assoc, ← List.mem_append]
    exact or_congr_left (mem_congr (by decide) (by decide))
  have hchange (pol : Policy) :
      pol.permitUnlink.permitRmdir.permitRename.permitFtruncate.isAllowed n = true ↔
        n ∈ [nrUnlink, nrRmdir, nrRename, nrFtruncate, nrFtruncate64] ∨
          pol.isAllowed n = true := by
    unfold Policy.permitUnlink Policy.permitRmdir Policy.permitRename Policy.permitFtruncate
    simp only [isAllowed_allow, ← or_assoc, ← List.mem_append]
    exact or_congr_left (mem_congr (by decide) (by decide))
  have hother (pol : Policy) :
      (setupOther cfg pol).isAllowed n = true ↔
        (cfg.mdtmWrite = true ∧ n ∈ [nrUtime, nrUtimes] ∨
          n ∈ [nrUnlink, nrRmdir, nrRename, nrFtruncate, nrFtruncate64]) ∨
            pol.isAllowed n = true := by
    unfold setupOther
    dsimp only
    rw [more_ite (Policy.isAllowed · n) (f := Policy.permitUtime) isAllowed_allow, hchange,
      or_assoc]
  unfold setupWrite
  dsimp only
  by_cases hwrite : cfg.writeEnable = true
  · rw [if_pos hwrite,
      more_ite (Policy.isAllowed · n) (f := fun pol => pol.permitFchmod.permitFchown) (hchown _),
      more_ite (Policy.isAllowed · n) (f := Policy.permitChmod) isAllowed_allow,
      more_ite (Policy.isAllowed · n) (f := setupOther cfg) (hother _),
      more_ite (Policy.isAllowed · n) (f := Policy.permitMkdir) isAllowed_allow,
      more_ite (Policy.isAllowed · n) (f := fun pol => pol.permitOpen true) isAllowed_allow]
    simp only [hwrite, true_and, or_assoc]
  · rw [if_neg hwrite]
    simp [hwrite]

/-- Whether the session has the validator of `open` that lets it write. -/
def opensForWriting (cfg : PolicyTunables) (isAnon : Bool) : Bool :=
  cfg.writeEnable && (!isAnon || cfg.anonUploadEnable)

/-- The validators of the session. -/
def ftpValidator (writeable : Bool) (n : Nat) : Option Validator :=
  if n = nrFcntl ∨ n = nrFcntl64 then some .fcntl
  else if n = nrOpen then some (if writeable then .openDefault else .openReadonly)
  else if n = nrSocketcall then some .socketcall
  else if n = nrMmap2 then some .mmap2
  else none

theorem unchanged_ite {α : Type} (g : Policy → α) {c : Prop} [Decidable c] {f : Policy → Policy}
    (h : g (f pol) = g pol) : g (if c then f pol else pol) = g pol := by
  by_cases hc : c
  · rw [if_pos hc, h]
  · rw [if_neg hc]

/-- The numbers that have a validator. -/
def validated : List Nat := [nrMmap2, nrOpen, nrSocketcall, nrFcntl, nrFcntl64]

theorem validator_of_ne {call : Nat} {v : Validator} (h : n ∉ validated)
    (hcall : call ∈ validated) :
    (pol.validate call v).validator n = pol.validator n := by
  show Function.update pol.validator call (some v) n = _
  rw [Function.update_of_ne]
  intro heq
  exact h (heq ▸ hcall)

theorem validator_allow {calls : List Nat} : (pol.allow calls).validator = pol.validator := rfl

theorem validator_socketcallValidator {call : Nat} {val : SocketcallValidator} :
    (pol.setSocketcallValidator call val).validator = pol.validator :=
  rfl

theorem validator_socketcall (h : n ∉ validated) {call : Nat} :
    (pol.permitSocketcall call).validator n = pol.validator n :=
  validator_of_ne h (by decide)

theorem setupBase_validator : (setupBase cfg {}).validator = ftpValidator false := by
  unfold setupBase
  dsimp only
  rw [unchanged_ite Policy.validator (f := Policy.permitAlarm) rfl,
    unchanged_ite Policy.validator (f := Policy.permitSigaction) rfl,
    unchanged_ite Policy.validator (f := Policy.permitMremap) rfl]
  funext n
  unfold ftpValidator
  by_cases hfcntl : n = nrFcntl ∨ n = nrFcntl64
  · rw [if_pos hfcntl]
    rcases hfcntl with rfl | rfl <;> rfl
  · rw [if_neg hfcntl]
    by_cases hopen : n = nrOpen
    · rw [if_pos hopen, hopen]
      rfl
    · rw [if_neg hopen]
      by_cases hsocketcall : n = nrSocketcall
      · rw [if_pos hsocketcall, hsocketcall]
        rfl
      · rw [if_neg hsocketcall]
        by_cases hmmap : n = nrMmap2
        · rw [if_pos hmmap, hmmap]
          rfl
        · rw [if_neg hmmap]
          have hn : n ∉ validated := by
            simp only [validated, List.mem_cons, List.not_mem_nil, or_false, not_or]
            exact ⟨hmmap, hopen, hsocketcall, not_or.mp hfcntl⟩
          simp (disch := decide) only [Policy.permitExit, Policy.permitMmap,
            Policy.permitMprotect, Policy.permitBrk, Policy.permitRead, Policy.permitWrite,
            Policy.permitRecv, Policy.permitQueryTime, Policy.permitOpen, Policy.permitClose,
            Policy.permitFileStats, Policy.permitReadlink, Policy.permitGetcwd,
            Policy.permitChdir, Policy.permitGetdents, Policy.permitFdStats, Policy.permitSeek,
            Policy.permitShutdown, Policy.permitFcntl, Policy.permitSetsockopt,
            Policy.setSetsockoptValidator, Policy.permitUmask, Policy.permitSelect,
            Policy.permitSigreturn, Policy.permitSleep, Policy.permitSendfile, validator_allow,
            validator_socketcallValidator, validator_socketcall hn, validator_of_ne hn]

theorem validator_socketcall_apply {call : Nat} :
    (pol.permitSocketcall call).validator n =
      if n = nrSocketcall then some .socketcall else pol.validator n :=
  Function.update_apply _ _ _ _

/-- The network permissions find the validator of `socketcall` installed. -/
theorem setupNetwork_validator (h : pol.validator nrSocketcall = some .socketcall) :
    (setupNetwork cfg sess pol).validator = pol.validator := by
  funext n
  unfold setupNetwork
  dsimp only
  by_cases hn : n = nrSocketcall
  · subst hn
    split_ifs <;>
      simp only [setupPort, Policy.permitSocket, Policy.setSocketValidator, Policy.permitBind,
        Policy.setBindValidator, Policy.permitConnect, Policy.setConnectValidator,
        Policy.permitGetsockopt, Policy.setGetsockoptValidator, Policy.permitListen,
        Policy.permitAccept, validator_socketcall_apply, validator_socketcallValidator, h, if_true]
  · split_ifs <;>
      simp only [setupPort, Policy.permitSocket, Policy.setSocketValidator, Policy.permitBind,
        Policy.setBindValidator, Policy.permitConnect, Policy.setConnectValidator,
        Policy.permitGetsockopt, Policy.setGetsockoptValidator, Policy.permitListen,
        Policy.permitAccept, validator_socketcall_apply, validator_socketcallValidator, hn,
        if_false]

theorem setupWrite_validator {isAnon : Bool} :
    (setupWrite cfg isAnon pol).validator =
      if opensForWriting cfg isAnon then Function.update pol.validator nrOpen (some .openDefault)
      else pol.validator := by
  unfold setupWrite opensForWriting
  dsimp only
  by_cases hwrite : cfg.writeEnable = true
  · have hother : ∀ pol : Policy, (setupOther cfg pol).validator = pol.validator := by
      intro pol
      unfold setupOther
      dsimp only
      rw [unchanged_ite Policy.validator (f := Policy.permitUtime) rfl]
      rfl
    rw [if_pos hwrite,
      unchanged_ite Policy.validator (f := fun pol => pol.permitFchmod.permitFchown) rfl,
      unchanged_ite Policy.validator (f := Policy.permitChmod) rfl,
      unchanged_ite Policy.validator (f := setupOther cfg) (hother _),
      unchanged_ite Policy.validator (f := Policy.permitMkdir) rfl, hwrite, Bool.true_and]
    split_ifs <;> rfl
  · rw [if_neg hwrite, Bool.not_eq_true _ |>.mp hwrite, Bool.false_and, if_neg (by decide)]

theorem policySetup_validator :
    (policySetup cfg sess {}).validator =
      ftpValidator (opensForWriting cfg sess.isAnonymous) := by
  unfold policySetup
  rw [setupWrite_validator, setupNetwork_validator (by rw [setupBase_validator]; rfl),
    setupBase_validator]
  cases opensForWriting cfg sess.isAnonymous with
  | false => rfl
  | true =>
      funext n
      rw [if_pos rfl, Function.update_apply]
      unfold ftpValidator
      by_cases hopen : n = nrOpen
      · subst hopen
        rfl
      · rw [if_neg hopen, if_neg hopen, if_neg hopen]

/-! ### Socket calls -/

/-- The tables of the socket calls. -/
def Policy.sockets (pol : Policy) : (Nat → Bool) × (Nat → Option SocketcallValidator) :=
  (pol.isSocketcallAllowed, pol.socketcallValidator)

theorem setupWrite_sockets {isAnon : Bool} :
    (setupWrite cfg isAnon pol).sockets = pol.sockets := by
  have hother : ∀ pol : Policy, (setupOther cfg pol).sockets = pol.sockets := by
    intro pol
    unfold setupOther
    dsimp only
    rw [unchanged_ite Policy.sockets (f := Policy.permitUtime) rfl]
    rfl
  unfold setupWrite
  dsimp only
  by_cases hwrite : cfg.writeEnable = true
  · rw [if_pos hwrite,
      unchanged_ite Policy.sockets (f := fun pol => pol.permitFchmod.permitFchown) rfl,
      unchanged_ite Policy.sockets (f := Policy.permitChmod) rfl,
      unchanged_ite Policy.sockets (f := setupOther cfg) (hother _),
      unchanged_ite Policy.sockets (f := Policy.permitMkdir) rfl,
      unchanged_ite Policy.sockets (f := fun pol => pol.permitOpen true) rfl]
  · rw [if_neg hwrite]

theorem setupBase_sockets :
    (setupBase cfg {}).sockets =
      (fun n => n = sysSetsockopt || (n = sysShutdown || (n = sysRecv || false)),
        Function.update (fun _ => none) sysSetsockopt (some setsockoptValidator)) := by
  unfold setupBase
  dsimp only
  rw [unchanged_ite Policy.sockets (f := Policy.permitAlarm) rfl,
    unchanged_ite Policy.sockets (f := Policy.permitSigaction) rfl,
    unchanged_ite Policy.sockets (f := Policy.permitMremap) rfl]
  rfl

theorem policySetup_sockets :
    (policySetup cfg sess {}).sockets = (setupNetwork cfg sess (setupBase cfg {})).sockets :=
  setupWrite_sockets

theorem isSocketcallAllowed_permit {call : Nat} :
    (pol.permitSocketcall call).isSocketcallAllowed n = true ↔
      n ∈ [call] ∨ pol.isSocketcallAllowed n = true := by
  show (decide (n = call) || pol.isSocketcallAllowed n) = true ↔ _
  rw [Bool.or_eq_true, decide_eq_true_iff, List.mem_singleton]

theorem isSocketcallAllowed_validator {call : Nat} {val : SocketcallValidator} :
    (pol.setSocketcallValidator call val).isSocketcallAllowed n = true ↔
      pol.isSocketcallAllowed n = true :=
  Iff.rfl

theorem policySetup_isSocketcallAllowed :
    (policySetup cfg sess {}).isSocketcallAllowed n = true ↔
      cfg.pasvEnable = true ∧ n ∈ [sysListen, sysAccept] ∨
      cfg.portEnable = true ∧ n ∈ [sysConnect, sysGetsockopt] ∨
      n ∈ [sysSocket, sysBind, sysRecv, sysShutdown, sysSetsockopt] := by
  have hbase : (setupBase cfg {}).isSocketcallAllowed n = true ↔
      n ∈ [sysSetsockopt, sysShutdown, sysRecv] := by
    rw [show (setupBase cfg {}).isSocketcallAllowed n = _ from
      congrFun (congrArg Prod.fst setupBase_sockets) n]
    simp
  have hpasv (pol : Policy) : pol.permitListen.permitAccept.isSocketcallAllowed n = true ↔
      n ∈ [sysListen, sysAccept] ∨ pol.isSocketcallAllowed n = true := by
    unfold Policy.permitListen Policy.permitAccept
    rw [isSocketcallAllowed_permit, isSocketcallAllowed_permit, ← or_assoc, ← List.mem_append]
    exact or_congr_left (mem_congr (by decide) (by decide))
  have hport (pol : Policy) : (setupPort sess pol).isSocketcallAllowed n = true ↔
      n ∈ [sysConnect, sysGetsockopt] ∨ pol.isSocketcallAllowed n = true := by
    unfold setupPort Policy.permitConnect Policy.setConnectValidator Policy.permitGetsockopt
      Policy.setGetsockoptValidator
    simp only [isSocketcallAllowed_permit, isSocketcallAllowed_validator, ← or_assoc,
      ← List.mem_append]
    exact or_congr_left (mem_congr (by decide) (by decide))
  rw [show (policySetup cfg sess {}).isSocketcallAllowed = _ from
    congrArg Prod.fst policySetup_sockets]
  show (setupNetwork cfg sess (setupBase cfg {})).isSocketcallAllowed n = true ↔ _
  unfold setupNetwork
  dsimp only
  rw [more_ite (Policy.isSocketcallAllowed · n) (f := fun pol => pol.permitListen.permitAccept)
      (hpasv _),
    more_ite (Policy.isSocketcallAllowed · n) (f := setupPort sess) (hport _)]
  refine or_congr_right (or_congr_right ?_)
  simp only [Policy.permitSocket, Policy.setSocketValidator, Policy.permitBind,
    Policy.setBindValidator, isSocketcallAllowed_permit, isSocketcallAllowed_validator, hbase,
    ← List.mem_append]
  exact mem_congr (by decide) (by decide)

/-- The validators of the socket calls. -/
def ftpSocketcallValidator (cfg : PolicyTunables) (sess : VsfSession) :
    Nat → Option SocketcallValidator :=
  let table := Function.update (Function.update (Function.update (fun _ => none) sysSetsockopt
    (some setsockoptValidator)) sysSocket (some (socketValidator sess))) sysBind
    (some (connectValidator sess))
  if cfg.portEnable then
    Function.update (Function.update table sysConnect (some (connectValidator sess)))
      sysGetsockopt (some getsockoptValidator)
  else table

theorem policySetup_socketcallValidator :
    (policySetup cfg sess {}).socketcallValidator = ftpSocketcallValidator cfg sess := by
  have hbase : (setupBase cfg {}).socketcallValidator =
      Function.update (fun _ => none) sysSetsockopt (some setsockoptValidator) :=
    congrArg Prod.snd setupBase_sockets
  rw [show (policySetup cfg sess {}).socketcallValidator = _ from
    congrArg Prod.snd policySetup_sockets]
  show (setupNetwork cfg sess (setupBase cfg {})).socketcallValidator = _
  unfold setupNetwork ftpSocketcallValidator
  dsimp only
  rw [unchanged_ite Policy.socketcallValidator (f := fun pol => pol.permitListen.permitAccept) rfl,
    ← hbase]
  split_ifs <;> rfl

theorem socketcallValidator_common (cfg : PolicyTunables) (sess : VsfSession) :
    ftpSocketcallValidator cfg sess sysSetsockopt = some setsockoptValidator ∧
    ftpSocketcallValidator cfg sess sysSocket = some (socketValidator sess) ∧
    ftpSocketcallValidator cfg sess sysBind = some (connectValidator sess) := by
  unfold ftpSocketcallValidator
  split_ifs <;> exact ⟨rfl, rfl, rfl⟩

theorem socketcallValidator_port (sess : VsfSession) (hport : cfg.portEnable = true) :
    ftpSocketcallValidator cfg sess sysConnect = some (connectValidator sess) ∧
    ftpSocketcallValidator cfg sess sysGetsockopt = some getsockoptValidator := by
  unfold ftpSocketcallValidator
  rw [if_pos hport]
  exact ⟨rfl, rfl⟩

theorem socketcallValidator_none (cfg : PolicyTunables) (sess : VsfSession) (n : Nat)
    (hn : n ∈ [sysRecv, sysShutdown, sysListen, sysAccept]) :
    ftpSocketcallValidator cfg sess n = none := by
  simp only [List.mem_cons, List.not_mem_nil, or_false] at hn
  unfold ftpSocketcallValidator
  rcases hn with rfl | rfl | rfl | rfl <;> split_ifs <;> rfl

end

end Vsftpd.PtraceSandbox
