import Vsftpd.Seccomp.Policy
import Vsftpd.Session.Mediation

/-!
# The rules and the handlers

Whether the rules of a process cover the calls that it makes for a command, when the
session and its privileged parent are two processes.
-/

namespace Vsftpd.Seccomp

open Vsftpd.Session

variable {W X : Type} {k : Kernel W} {base : VsfSession} {φ : W → X} {start : State W}

/-! ## What the kernel is asked -/

/-- A system call, as far as the rules look at it. -/
structure Request where
  nr : Int32
  args : List (Int32 × Int32) := []
  deriving DecidableEq

def Request.Describes (r : Request) (d : SeccompData) : Prop :=
  d.nr = r.nr.toUInt32 ∧ ∀ arg ∈ r.args, d.lowArg arg.1 = arg.2.toUInt32

/-- The flags of the four functions of `sysutil.c` that open a file. -/
def openFlags : OpenHow → Int32
  | .read => oRdonly ||| oNonblock
  | .exclusive => oCreat ||| oExcl ||| oWronly ||| oAppend
  | .create => oCreat ||| oWronly ||| oNonblock

/-- The requests by which the C library may make the calls that open or modify files or
pass descriptors. -/
def requests : Syscall → List Request
  | .open _ file =>
    [{ nr := nrOpen, args := [(2, openFlags file.how)] },
     { nr := nrOpenat, args := [(3, openFlags file.how)] }]
  | .ftruncate _ => [{ nr := nrFtruncate }]
  | .unlink _ => [{ nr := nrUnlink }]
  | .rename _ _ => [{ nr := nrRename }]
  | .mkdir _ _ => [{ nr := nrMkdir }]
  | .rmdir _ => [{ nr := nrRmdir }]
  | .chmod _ _ => [{ nr := nrChmod }]
  | .fchmod _ _ => [{ nr := nrFchmod }]
  | .fchown _ _ => [{ nr := nrFchown }]
  | .utime _ _ _ => [{ nr := nrUtime }, { nr := nrUtimes }]
  | .sendFd _ => [{ nr := nrSendmsg, args := [(3, 0)] }]
  | .recvFd _ _ => [{ nr := nrRecvmsg, args := [(3, 0)] }]
  | _ => []

/-- The rules of the process that makes a call. -/
def processRules (cfg : PolicyTunables) (pid : Int32) (sess : VsfSession) : Proc → List Call
  | .session => seccompSandboxSetupPostlogin cfg pid sess
  | .parent => seccompSandboxSetupPostloginBroker cfg

/-- The filter of the process that makes the call lets it through. -/
def Permitted (cfg : PolicyTunables) (pid : Int32) (sess : VsfSession) (e : Event W) : Prop :=
  ∀ r ∈ requests e.call, ∀ d : SeccompData, d.arch = auditArchX8664 → r.Describes d →
    firstMatch (processRules cfg pid sess e.before.turn) d = .allow

/-! ## A rule for a request -/

/-- What the rule asks is part of what the request fixes. -/
def Call.Covers (c : Call) (r : Request) : Prop :=
  c.verdict = .allow ∧ ∀ d : SeccompData, r.Describes d → c.Matches d

theorem covers_allow (nr : Int32) : (Call.allow nr).Covers { nr := nr } :=
  ⟨rfl, fun _ h => ⟨h.1, fun _ hk => absurd hk List.not_mem_nil⟩⟩

theorem covers_oneMatch (nr arg val : Int32) :
    (Call.oneMatch nr arg val).Covers { nr := nr, args := [(arg, val)] } := by
  refine ⟨rfl, fun d h => ⟨h.1, fun c hc => ?_⟩⟩
  rw [List.mem_singleton.mp hc]
  exact h.2 (arg, val) List.mem_cons_self

theorem covers_oneMask {nr arg val mask : Int32} (hmask : val.toUInt32 &&& ~~~mask.toUInt32 = 0) :
    (Call.oneMask nr arg mask).Covers { nr := nr, args := [(arg, val)] } := by
  refine ⟨rfl, fun d h => ⟨h.1, fun c hc => ?_⟩⟩
  have hval : d.lowArg arg = val.toUInt32 := h.2 (arg, val) List.mem_cons_self
  rw [List.mem_singleton.mp hc]
  show d.lowArg arg &&& ~~~mask.toUInt32 = 0
  rw [hval]
  exact hmask

/-- Only `mremap` and `socket` are ever rejected. -/
theorem verdict_processRules {cfg : PolicyTunables} {pid : Int32} {sess : VsfSession} {p : Proc} :
    ∀ c ∈ processRules cfg pid sess p, c.verdict = .allow ∨ c.nr = nrMremap ∨ c.nr = nrSocket := by
  cases p with
  | session =>
      exact forall_mem_postlogin (by decide) (.inl rfl) (.inl rfl) (.inl rfl)
        (forall_mem_modelRules (fun _ => by decide) (fun _ _ _ => by decide) (by decide))
        fun _ => forall_mem_writeRules (by decide)
  | parent => exact forall_mem_broker (by decide)

theorem permitted_of_rule {cfg : PolicyTunables} {pid : Int32} {sess : VsfSession} {p : Proc}
    {c : Call} {r : Request} {d : SeccompData} (hc : c ∈ processRules cfg pid sess p)
    (hcovers : c.Covers r) (hnr : c.nr ≠ nrMremap ∧ c.nr ≠ nrSocket)
    (harch : d.arch = auditArchX8664) (hd : r.Describes d) :
    firstMatch (processRules cfg pid sess p) d = .allow := by
  refine allow_of_rule harch hc (hcovers.2 d hd) fun c' hc' hsame => ?_
  rcases verdict_processRules c' hc' with hallow | hmremap | hsocket
  · exact hallow
  · exact absurd (hsame.symm.trans hmremap) hnr.1
  · exact absurd (hsame.symm.trans hsocket) hnr.2

/-! ## The rules that the handlers need -/

section
variable {cfg : PolicyTunables} {pid : Int32} {sess : VsfSession}

theorem mem_postlogin_of_write {c : Call} (hwrite : cfg.writeEnable = true)
    (h : c ∈ writeRules cfg sess.isAnonymous) : c ∈ processRules cfg pid sess .session :=
  List.mem_append_right _ (mem_given.mpr ⟨hwrite, h⟩)

theorem mem_postlogin_open {c : Call}
    (h : c ∈ [Call.oneMask nrOpen 2 (openFlag cfg), .oneMask nrOpenat 3 (openFlag cfg)]) :
    c ∈ processRules cfg pid sess .session := by
  simp only [processRules, seccompSandboxSetupPostlogin, List.mem_append]
  tauto

theorem mem_postlogin_model {c : Call} (h : c ∈ modelRules cfg sess.isAnonymous) :
    c ∈ processRules cfg pid sess .session := by
  simp only [processRules, seccompSandboxSetupPostlogin, List.mem_append]
  tauto

theorem gate_anon {tunable : Bool} (h : WriteGate cfg.toTunables base tunable)
    (hanon : sess.isAnonymous = base.isAnonymous) : (!sess.isAnonymous || tunable) = true := by
  rw [hanon]
  cases hbase : base.isAnonymous with
  | true => exact h.2 hbase
  | false => rfl

theorem openFlags_masked {how : OpenHow} (h : OpenGate cfg.toTunables base how) :
    (openFlags how).toUInt32 &&& ~~~(openFlag cfg).toUInt32 = 0 := by
  unfold openFlag
  cases how with
  | read => split_ifs <;> decide
  | exclusive =>
      rw [if_pos h.1]
      decide
  | create =>
      rw [if_pos h.1]
      decide

/-- A call that the session may make only with `write_enable`. -/
theorem permitted_write {s : State W} {c : Syscall} {nr : Int32}
    (hsession : s.turn = .session) (hwrite : cfg.writeEnable = true)
    (hrule : .allow nr ∈ writeRules cfg sess.isAnonymous) (hnr : nr ≠ nrMremap ∧ nr ≠ nrSocket)
    (hrequests : requests c = [{ nr := nr }]) : Permitted cfg pid sess ⟨c, s⟩ := by
  intro r hr d harch hd
  show firstMatch (processRules cfg pid sess s.turn) d = .allow
  rw [hsession]
  rw [hrequests] at hr
  rw [List.mem_singleton.mp hr] at hd
  exact permitted_of_rule (mem_postlogin_of_write hwrite hrule) (covers_allow nr) hnr harch hd

theorem permitted_open {s : State W} {fd : Fd} {file : OpenFile}
    (hsession : s.turn = .session) (hgate : OpenGate cfg.toTunables base file.how) :
    Permitted cfg pid sess ⟨.open fd file, s⟩ := by
  intro r hr d harch hd
  show firstMatch (processRules cfg pid sess s.turn) d = .allow
  rw [hsession]
  have hmask := openFlags_masked hgate
  rcases List.mem_cons.mp hr with rfl | hr
  · exact permitted_of_rule (mem_postlogin_open List.mem_cons_self) (covers_oneMask hmask)
      (by decide : nrOpen ≠ nrMremap ∧ nrOpen ≠ nrSocket) harch hd
  · rw [List.mem_singleton.mp hr] at hd
    exact permitted_of_rule (mem_postlogin_open (List.mem_cons_of_mem _ List.mem_cons_self))
      (covers_oneMask hmask) (by decide : nrOpenat ≠ nrMremap ∧ nrOpenat ≠ nrSocket) harch hd

theorem permitted_utime {s : State W} {path : Bytes} {time : Int} {isLocaltime : Bool}
    (hsession : s.turn = .session) (hgate : WriteGate cfg.toTunables base cfg.anonOtherWriteEnable)
    (hanon : sess.isAnonymous = base.isAnonymous) (hmdtm : cfg.mdtmWrite = true) :
    Permitted cfg pid sess ⟨.utime path time isLocaltime, s⟩ := by
  intro r hr d harch hd
  show firstMatch (processRules cfg pid sess s.turn) d = .allow
  rw [hsession]
  have hmem (nr : Int32) (hnr : nr = nrUtime ∨ nr = nrUtimes) :
      .allow nr ∈ writeRules cfg sess.isAnonymous := by
    simp [writeRules, mem_given, gate_anon hgate hanon, hmdtm, hnr]
  rcases List.mem_cons.mp hr with rfl | hr
  · exact permitted_of_rule (mem_postlogin_of_write hgate.1 (hmem _ (.inl rfl)))
      (covers_allow _) (by decide) harch hd
  · rw [List.mem_singleton.mp hr] at hd
    exact permitted_of_rule (mem_postlogin_of_write hgate.1 (hmem _ (.inr rfl)))
      (covers_allow _) (by decide) harch hd

/-- Each process may send descriptors: the parent always, the session to its SSL slave. -/
theorem permitted_sendFd {s : State W} {fd : Fd} (htwo : cfg.oneProcessModel = false)
    (hssl : s.turn = .session → cfg.sslEnable = true) : Permitted cfg pid sess ⟨.sendFd fd, s⟩ := by
  intro r hr d harch hd
  rw [List.mem_singleton.mp hr] at hd
  show firstMatch (processRules cfg pid sess s.turn) d = .allow
  cases hp : s.turn with
  | session =>
      have hmem : .oneMatch nrSendmsg 3 0 ∈ modelRules cfg sess.isAnonymous := by
        simp [modelRules, htwo, mem_given, hssl hp]
      exact permitted_of_rule (mem_postlogin_model hmem) (covers_oneMatch _ _ _) (by decide)
        harch hd
  | parent =>
      have hmem : .oneMatch nrSendmsg 3 0 ∈ processRules cfg pid sess .parent :=
        List.mem_append_right _ List.mem_cons_self
      exact permitted_of_rule hmem (covers_oneMatch _ _ _) (by decide) harch hd

theorem permitted_recvFd {s : State W} {fd : Fd} {passed : Nat}
    (htwo : cfg.oneProcessModel = false) (hsession : s.turn = .session) :
    Permitted cfg pid sess ⟨.recvFd fd passed, s⟩ := by
  intro r hr d harch hd
  rw [List.mem_singleton.mp hr] at hd
  show firstMatch (processRules cfg pid sess s.turn) d = .allow
  rw [hsession]
  have hmem : .oneMatch nrRecvmsg 3 0 ∈ modelRules cfg sess.isAnonymous := by
    simp [modelRules, htwo]
  exact permitted_of_rule (mem_postlogin_model hmem) (covers_oneMatch _ _ _) (by decide) harch hd

/-- The rules cover every call of a command that gives no upload away. -/
theorem permitted_of_eventOk {e : Event W} (h : EventOk cfg.toTunables k base φ start e)
    (htwo : cfg.oneProcessModel = false) (hanon : sess.isAnonymous = base.isAnonymous)
    (hssl : base.sslSlaveActive = true → cfg.sslEnable = true)
    (hkeeps : ¬ GivesAway cfg.toTunables k base φ start) : Permitted cfg pid sess e := by
  obtain ⟨call, s⟩ := e
  have hissued := h.issued
  have hplaced := h.placed
  have hturn : ¬ ParentCall call → s.turn = .session := by
    intro hnot
    cases hp : s.turn with
    | session => rfl
    | parent => exact absurd (hplaced hp) hnot
  cases call with
  | «open» fd file => exact permitted_open (hturn not_false) hissued.2.1
  | ftruncate fd =>
      obtain ⟨f, ⟨w, hfile⟩, hcreate⟩ := hissued
      have hgate : WriteGate cfg.toTunables base cfg.anonOtherWriteEnable := by
        have hopen := hfile.gate
        rw [hcreate] at hopen
        exact hopen
      have hmem : .allow nrFtruncate ∈ writeRules cfg sess.isAnonymous := by
        simp [writeRules, mem_given, gate_anon hgate hanon]
      exact permitted_write (hturn not_false) hgate.1 hmem (by decide) rfl
  | unlink path =>
      have hgate : cfg.writeEnable = true ∧
          (!sess.isAnonymous || cfg.anonOtherWriteEnable || cfg.deleteFailedUploads) = true := by
        rcases hissued with ⟨-, hgate⟩ | ⟨hdelete, fd, f, ⟨w, hfile⟩, -⟩
        · rw [gate_anon hgate hanon]
          exact ⟨hgate.1, Bool.true_or _⟩
        · rw [hdelete]
          exact ⟨hfile.writeEnable, Bool.or_true _⟩
      have hmem : .allow nrUnlink ∈ writeRules cfg sess.isAnonymous := by
        simp only [writeRules, List.mem_append, mem_given, hgate.2]
        simp
      exact permitted_write (hturn not_false) hgate.1 hmem (by decide) rfl
  | rename src dst =>
      have hgate := hissued.2.1
      have hmem : .allow nrRename ∈ writeRules cfg sess.isAnonymous := by
        simp [writeRules, mem_given, gate_anon hgate hanon]
      exact permitted_write (hturn not_false) hgate.1 hmem (by decide) rfl
  | mkdir path mode =>
      have hgate := hissued.2
      have hmem : .allow nrMkdir ∈ writeRules cfg sess.isAnonymous := by
        simp [writeRules, mem_given, gate_anon hgate hanon]
      exact permitted_write (hturn not_false) hgate.1 hmem (by decide) rfl
  | rmdir path =>
      have hgate := hissued.2
      have hmem : .allow nrRmdir ∈ writeRules cfg sess.isAnonymous := by
        simp [writeRules, mem_given, gate_anon hgate hanon]
      exact permitted_write (hturn not_false) hgate.1 hmem (by decide) rfl
  | chmod path mode =>
      obtain ⟨-, hwrite, hchmod, hlocal⟩ := hissued
      have hmem : .allow nrChmod ∈ writeRules cfg sess.isAnonymous := by
        simp [writeRules, mem_given, hchmod, hanon, hlocal]
      exact permitted_write (hturn not_false) hwrite hmem (by decide) rfl
  | utime path time isLocaltime =>
      obtain ⟨-, hgate, hmdtm⟩ := hissued
      exact permitted_utime (hturn not_false) hgate hanon hmdtm
  | fchmod fd mode =>
      obtain ⟨hanonBase, hchown, f, hfile⟩ := hissued
      exact absurd (hfile.givesAway hanonBase hchown) hkeeps
  | fchown fd uid => exact absurd hissued hkeeps
  | sendFd fd =>
      refine permitted_sendFd htwo fun hp => ?_
      rcases hissued hp with hgives | hslave
      · exact absurd hgives hkeeps
      · exact hssl hslave
  | recvFd fd passed =>
      have hsession : s.turn = .session := by
        cases hp : s.turn with
        | session => rfl
        | parent => exact absurd (hissued hp) hkeeps
      exact permitted_recvFd htwo hsession
  | _ => exact fun r hr => absurd hr List.not_mem_nil

end

theorem not_givesAway_atLogin (cfg : Tunables) (k : Kernel W) (sess : VsfSession) (world : W) :
    ¬ GivesAway cfg k base φ (atLogin cfg sess world) := by
  rintro ⟨-, -, fd, f, w, hopens⟩
  obtain ⟨isUnique, hcommand, -⟩ := hopens.command
  exact not_uploadCommand_atLogin cfg sess world isUnique hcommand

/-- In a run in which no upload is given away no filter is in the way. -/
theorem permitted_of_keeps (cfg : PolicyTunables) (pid : Int32) (k : Kernel W) (φ : W → X)
    (sess : VsfSession) (world : W) (n : Nat) (hk : KeepsFs k φ)
    (htwo : cfg.oneProcessModel = false)
    (hkeeps : ∀ i start, i < n →
      Begins cfg.toTunables k (atLogin cfg.toTunables sess world) i start →
      ¬ GivesAway cfg.toTunables k (atLogin cfg.toTunables sess world).session φ start) :
    EveryEvent cfg.toTunables k (atLogin cfg.toTunables sess world) n
      fun _ e => Permitted cfg pid sess e := by
  have hok := everyEvent_ok hk (loopInv_atLogin cfg.toTunables sess world φ) n
  have hssl : (atLogin cfg.toTunables sess world).session.sslSlaveActive = true →
      cfg.sslEnable = true := by
    intro hactive
    have hand : (!cfg.oneProcessModel && (cfg.sslEnable && sess.controlUseSsl)) = true := hactive
    rw [Bool.and_eq_true, Bool.and_eq_true] at hand
    exact hand.2.1
  refine hok.mono (fun e he => ?_) fun i start e hi hbegins he => ?_
  · exact permitted_of_eventOk he htwo rfl hssl (not_givesAway_atLogin cfg.toTunables k sess world)
  · exact permitted_of_eventOk he htwo rfl hssl (hkeeps i start hi hbegins)

/-! ### An anonymous upload -/

/-- Anonymous clients may upload, and the files are given to another user. -/
def chownUploads : PolicyTunables where
  writeEnable := true
  anonUploadEnable := true
  chownUploads := true

def storScript (isAnonymous : Bool) : State Script :=
  scriptLogin chownUploads.toTunables isAnonymous ["PORT 127,0,0,1,156,64", "STOR f"] []

/-- A local user keeps what he uploads. -/
theorem permitted_storScript :
    EveryEvent chownUploads.toTunables scriptKernel (storScript false) 2
      fun _ e => Permitted chownUploads 1 (localClient false) e :=
  permitted_of_keeps chownUploads 1 scriptKernel (fun _ => ()) (localClient false) _ 2
    (keepsFs_unit scriptKernel) rfl fun _ _ _ _ hgives => absurd hgives.1 (by decide)

def isFchmod : Syscall → Bool
  | .fchmod _ _ => true
  | _ => false

def fchmodRequest : SeccompData where
  nr := nrFchmod.toUInt32
  arch := auditArchX8664
  instructionPointer := 0
  args := fun _ => 0

/-- An anonymous one is killed when its file is to be given away. -/
theorem storScript_killed :
    ¬ EveryEvent chownUploads.toTunables scriptKernel (storScript true) 2
      fun _ e => Permitted chownUploads 1 (localClient true) e := by
  intro h
  have hcalls : ∃ e ∈ (serveCommand chownUploads.toTunables scriptKernel
      (scriptStart chownUploads.toTunables (storScript true) 1)).1,
      isFchmod e.call = true ∧ e.before.turn = .session := by
    decide +kernel
  obtain ⟨e, he, hcall, hturn⟩ := hcalls
  have hpermitted := h.serving 1 _ (by decide) ⟨_, rfl, rfl⟩ e he
  have hrequest : { nr := nrFchmod } ∈ requests e.call := by
    cases hc : e.call with
    | fchmod fd mode => exact List.mem_cons_self
    | _ =>
        rw [hc] at hcall
        exact absurd hcall Bool.false_ne_true
  have hallow := hpermitted _ hrequest fchmodRequest rfl ⟨rfl, by simp⟩
  rw [hturn] at hallow
  have hkill : firstMatch (processRules chownUploads 1 (localClient true) .session) fchmodRequest =
      .kill := by decide
  exact absurd (hkill.symm.trans hallow) (by decide)

end Vsftpd.Seccomp
