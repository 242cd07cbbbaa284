import Vsftpd.Ptrace.Sandbox

/-!
# The supervisor and the traced process

`ptrace_sandbox_run_processes` with the kernel and the process that it traces.  The kernel
stops the process at the entry and at the end of each system call, and for signals; the
two stops of a call look alike, and the supervisor counts them.  The process does what it
likes, somebody else may kill it while it is stopped, and `waitpid` may fail.
-/

namespace Vsftpd.PtraceSandbox

def sigkill : Nat := 9
def sigtrap : Nat := 5
def sigcont : Nat := 18
def sigstop : Nat := 19

/-- What `waitpid` says of the process. -/
inductive Status where
  | exited
  | stopped (sig : Nat)
  /-- Neither of them. -/
  | other
  deriving DecidableEq, Repr

/-- The process, as the kernel sees it. -/
inductive Mode where
  | user
  | inCall
  /-- It is about to die of a signal. -/
  | dying
  | atStop (inCall : Bool)
  | atEntry (p : Stopped)
  | dead

/-- What the kernel does for the process. -/
inductive KernelEvent where
  | executed (p : Stopped)
  /-- The process was killed at the entry of the call, which runs all the same. -/
  | executedDying (p : Stopped)
  /-- The call at which the process was stopped was replaced by an exit. -/
  | exitForced (p : Stopped)

/-- The newest event is the first one. -/
structure System where
  sandbox : PtSandbox
  mode : Mode := .user
  trace : List KernelEvent := []

/-- The next stop of a process that runs its own code. -/
inductive UserStop where
  | signal (sig : Nat)
  | call (p : Stopped)
  | exits

/-- The next stop of a process in a system call. -/
inductive CallStop where
  | event
  | done
  | exits

/-- What the world does in one round of the supervisor. -/
structure Round where
  waitFails : Bool := false
  /-- The process is not at its stop when `waitpid` fails. -/
  running : Bool := false
  inUser : UserStop := .exits
  inCall : CallStop := .done
  /-- A `SIGKILL` from elsewhere, while the process is stopped. -/
  killed : Bool := false

/-! ## The kernel -/

/-- A stop for a system call has the high bit of the signal number set. -/
def syscallTrap : Nat := 0x85

def nextStop (r : Round) : Mode → Mode × Status
  | .user =>
    match r.inUser with
    | .signal sig => (.atStop false, .stopped (sig % 0x80))
    | .call p => (.atEntry p, .stopped syscallTrap)
    | .exits => (.dead, .exited)
  | .inCall =>
    match r.inCall with
    | .event => (.atStop true, .stopped sigtrap)
    | .done => (.atStop false, .stopped syscallTrap)
    | .exits => (.dead, .exited)
  | _ => (.dead, .exited)

/-- A `SIGKILL` does not keep the call from running at whose entry it finds the process. -/
def sendSigkill (s : System) : System :=
  match s.mode with
  | .atEntry p => { s with mode := .dead, trace := .executedDying p :: s.trace }
  | _ => { s with mode := .dead }

/-! ## The supervisor -/

/-- `PTRACE_SYSCALL`, which fails when the process is not there any more. -/
def ptraceSandboxContinueProcess (s : System) (sig : Nat) : System × Int :=
  match s.mode with
  | .atEntry p => ({ s with mode := .inCall, trace := .executed p :: s.trace }, 0)
  | .atStop inCall =>
    if sig = sigkill then ({ s with mode := .dying }, 0)
    else ({ s with mode := if inCall then .inCall else .user }, 0)
  | _ => (s, ptraceSandboxErrDead)

/-- `get_action` with `PTRACE_GETREGS`. -/
def getActionOf (s : System) : Except Int Unit :=
  match s.mode with
  | .atEntry p => getAction s.sandbox p
  | .atStop _ => getAction s.sandbox { regs := { origEax := -1 } }
  | _ => .error ptraceSandboxErrDead

def setExit (s : System) (isExit : Bool) : System :=
  { s with sandbox := { s.sandbox with isExit := isExit } }

def setPid (s : System) (pid : Int) : System := { s with sandbox := { s.sandbox with pid := pid } }

def ptraceSandboxHandleEvent (s : System) : Status → System × Int
  | .exited => (setPid s (-1), 1)
  | .other => (s, ptraceSandboxErrWaitStatus)
  | .stopped sig =>
    if sig < 0x80 then
      ptraceSandboxContinueProcess s (if sig = sigstop ∨ sig = sigcont then sigkill else sig)
    else if sig &&& 0x80 = 0 then (s, ptraceSandboxErrWaitStatus)
    else if s.sandbox.isExit then ptraceSandboxContinueProcess (setExit s false) 0
    else
      match getActionOf (setExit s true) with
      | .error action => (setExit s true, action)
      | .ok () => ptraceSandboxContinueProcess (setExit s true) 0

/-- The registers of a stopped process are set to those of an exit before it is killed.
Those of one that runs cannot be had, and it may come to its next stop before the signal. -/
def ptraceSandboxKillProcesses (r : Round) (s : System) : System :=
  if s.sandbox.pid = -1 then s
  else
    match s.mode with
    | .atEntry p => { setPid s (-1) with mode := .dead, trace := .exitForced p :: s.trace }
    | .atStop _ => { setPid s (-1) with mode := .dead }
    | mode => sendSigkill { setPid s (-1) with mode := (nextStop r mode).1 }

/-- The process runs to its next stop, where somebody may kill it. -/
def ptraceSandboxGetEvent (r : Round) (s : System) : System × Status :=
  let stop := nextStop r s.mode
  let s := { s with mode := stop.1 }
  (if r.killed then sendSigkill s else s, stop.2)

/-- The body of the loop; there is no result while the process runs on. -/
def oneRound (r : Round) (s : System) : System × Option Int :=
  let event := ptraceSandboxGetEvent r s
  if r.waitFails then
    (ptraceSandboxKillProcesses r (if r.running then s else event.1), some (-1))
  else
    let handled := ptraceSandboxHandleEvent event.1 event.2
    if handled.2 < 0 then (ptraceSandboxKillProcesses r handled.1, some (-1))
    else if handled.2 = 1 then (handled.1, some 0)
    else (handled.1, none)

def eventLoop : List Round → System → System × Option Int
  | [], s => (s, none)
  | r :: rounds, s =>
    match oneRound r s with
    | (s, some ret) => (s, some ret)
    | (s, none) => eventLoop rounds s

/-- The process is stopped by the signal that it sends itself before the policy holds, or
it has been killed there. -/
def ptraceSandboxRunProcesses (sb : PtSandbox) (killed : Bool) (rounds : List Round) :
    System × Option Int :=
  let first : System := { sandbox := sb, mode := if killed then .dead else .atStop false }
  let started := ptraceSandboxContinueProcess first 0
  if started.2 ≠ 0 then (ptraceSandboxKillProcesses {} started.1, some (-1))
  else eventLoop rounds started.1

/-! ## What holds between the rounds -/

section
variable {sb : PtSandbox} {s : System} {r : Round}

/-- All of these are calls that the policy permits. -/
def Permitted (sb : PtSandbox) (trace : List KernelEvent) : Prop :=
  ∀ e ∈ trace, ∃ p, e = .executed p ∧ getAction sb p = .ok ()

/-- The supervisor knows whether the process is in a call. -/
structure Running (sb : PtSandbox) (s : System) : Prop where
  tables : s.sandbox = { sb with isExit := s.sandbox.isExit }
  counted : s.mode = .user ∧ s.sandbox.isExit = false ∨
    s.mode = .inCall ∧ s.sandbox.isExit = true ∨ s.mode = .dying
  permitted : Permitted sb s.trace

/-- A `SIGKILL` may find the process at any stop: it is from somebody else, or from the
supervisor, which has not waited for the stop. -/
def Round.Kills (r : Round) : Prop := r.killed = true ∨ r.waitFails = true ∧ r.running = true

/-- How a process ends: by itself, by a `SIGKILL`, or by an exit in place of a call. -/
inductive Ending (sb : PtSandbox) (r : Round) : List KernelEvent → Prop where
  | itself {trace} : Permitted sb trace → Ending sb r trace
  | sigkill {trace} (p : Stopped) : r.Kills → Permitted sb trace →
      Ending sb r (.executedDying p :: trace)
  | forced {trace} (p : Stopped) : r.waitFails = true ∨ getAction sb p ≠ .ok () →
      Permitted sb trace → Ending sb r (.exitForced p :: trace)

/-- A process at a stop, with what `waitpid` says of it. -/
inductive Halted (sb : PtSandbox) (r : Round) (s : System) : Status → Prop where
  | exited : s.mode = .dead → Permitted sb s.trace → Halted sb r s .exited
  | gone (status : Status) : s.mode = .dead → r.killed = true → Ending sb r s.trace →
      Halted sb r s status
  | signal (b : Bool) (sig : Nat) : s.mode = .atStop b → s.sandbox.isExit = b → sig < 0x80 →
      Permitted sb s.trace → Halted sb r s (.stopped sig)
  | leaves : s.mode = .atStop false → s.sandbox.isExit = true → Permitted sb s.trace →
      Halted sb r s (.stopped syscallTrap)
  | enters (p : Stopped) : s.mode = .atEntry p → s.sandbox.isExit = false →
      Permitted sb s.trace → Halted sb r s (.stopped syscallTrap)

theorem Permitted.cons {trace : List KernelEvent} {p : Stopped} (hp : getAction sb p = .ok ())
    (h : Permitted sb trace) : Permitted sb (.executed p :: trace) := by
  intro e he
  rcases List.mem_cons.mp he with rfl | he
  · exact ⟨p, rfl, hp⟩
  · exact h e he

theorem Running.nextStop (h : Running sb s) :
    Halted sb r { s with mode := (nextStop r s.mode).1 } (nextStop r s.mode).2 := by
  obtain ⟨htables, hcounted, hpermitted⟩ := h
  rcases hcounted with ⟨hmode, hexit⟩ | ⟨hmode, hexit⟩ | hmode
  · rw [hmode]
    unfold PtraceSandbox.nextStop
    cases r.inUser with
    | signal sig => exact .signal false _ rfl hexit (Nat.mod_lt _ (by decide)) hpermitted
    | call p => exact .enters p rfl hexit hpermitted
    | exits => exact .exited rfl hpermitted
  · rw [hmode]
    unfold PtraceSandbox.nextStop
    cases r.inCall with
    | event => exact .signal true _ rfl hexit (by decide) hpermitted
    | done => exact .leaves rfl hexit hpermitted
    | exits => exact .exited rfl hpermitted
  · rw [hmode]
    exact .exited rfl hpermitted

/-- What the kernel still does for a process that is killed at a stop. -/
theorem Halted.ending_of_kill {status : Status} (h : Halted sb r s status) (hkills : r.Kills) :
    Ending sb r (sendSigkill s).trace := by
  unfold sendSigkill
  cases h with
  | exited hmode hpermitted =>
      rw [hmode]
      exact .itself hpermitted
  | gone _ hmode _ hending =>
      rw [hmode]
      exact hending
  | signal b sig hmode _ _ hpermitted =>
      rw [hmode]
      exact .itself hpermitted
  | leaves hmode _ hpermitted =>
      rw [hmode]
      exact .itself hpermitted
  | enters p hmode _ hpermitted =>
      rw [hmode]
      exact .sigkill p hkills hpermitted

theorem sendSigkill_eq (s : System) :
    sendSigkill s = { s with mode := .dead, trace := (sendSigkill s).trace } := by
  unfold sendSigkill
  cases s.mode <;> rfl

theorem Halted.killed {status : Status} (h : Halted sb r s status) (hkilled : r.killed = true) :
    Halted sb r (sendSigkill s) status := by
  have hending := h.ending_of_kill (.inl hkilled)
  rw [sendSigkill_eq]
  exact .gone status rfl hkilled hending

theorem Running.getEvent (h : Running sb s) :
    Halted sb r (ptraceSandboxGetEvent r s).1 (ptraceSandboxGetEvent r s).2 ∧
      (ptraceSandboxGetEvent r s).1.sandbox = s.sandbox := by
  unfold ptraceSandboxGetEvent
  dsimp only
  by_cases hkilled : r.killed = true
  · rw [if_pos hkilled]
    refine ⟨h.nextStop.killed hkilled, ?_⟩
    rw [sendSigkill_eq]
  · rw [if_neg hkilled]
    exact ⟨h.nextStop, rfl⟩

/-! ## What comes of a stop -/

/-- The process is gone, and so is the supervisor's hold of it. -/
structure Finished (sb : PtSandbox) (r : Round) (s : System) (ret : Int) : Prop where
  dead : s.mode = .dead
  noPid : s.sandbox.pid = -1
  ending : Ending sb r s.trace
  cause : ret ≠ 0 → r.waitFails = true ∨ r.killed = true ∨
    ∃ p, .exitForced p ∈ s.trace ∧ getAction sb p ≠ .ok ()

/-- What the kernel has done when the supervisor has killed the process. -/
def traceOfKill (r : Round) (s : System) : List KernelEvent :=
  match s.mode with
  | .atEntry p => .exitForced p :: s.trace
  | .atStop _ => s.trace
  | mode => (sendSigkill { s with mode := (nextStop r mode).1 }).trace

theorem killProcesses_eq (hpid : s.sandbox.pid ≠ -1) :
    ptraceSandboxKillProcesses r s =
      { setPid s (-1) with mode := .dead, trace := traceOfKill r s } := by
  have hsent : ∀ mode, sendSigkill { setPid s (-1) with mode := mode } =
      { setPid s (-1) with
        mode := .dead, trace := (sendSigkill { s with mode := mode }).trace } := by
    intro mode
    cases mode <;> rfl
  unfold ptraceSandboxKillProcesses traceOfKill
  rw [if_neg hpid]
  cases s.mode with
  | atEntry p => rfl
  | atStop b => rfl
  | user => exact hsent _
  | inCall => exact hsent _
  | dying => exact hsent _
  | dead => exact hsent _

theorem killProcesses_finished (hpid : s.sandbox.pid ≠ -1) (hending : Ending sb r (traceOfKill r s))
    (hcause : r.waitFails = true ∨ r.killed = true ∨
      ∃ p, .exitForced p ∈ traceOfKill r s ∧ getAction sb p ≠ .ok ()) :
    Finished sb r (ptraceSandboxKillProcesses r s) (-1) := by
  rw [killProcesses_eq hpid]
  exact ⟨rfl, rfl, hending, fun _ => hcause⟩

/-- A process that runs is killed at its next stop, if not before. -/
theorem Running.traceOfKill (h : Running sb s) (hfails : r.waitFails = true)
    (hrunning : r.running = true) : Ending sb r (traceOfKill r s) := by
  have hending := h.nextStop.ending_of_kill (r := r) (.inr ⟨hfails, hrunning⟩)
  unfold PtraceSandbox.traceOfKill
  rcases h.counted with ⟨hmode, -⟩ | ⟨hmode, -⟩ | hmode
  · rw [hmode] at hending ⊢
    exact hending
  · rw [hmode] at hending ⊢
    exact hending
  · rw [hmode] at hending ⊢
    exact hending

/-- A process at its stop is killed there. -/
theorem Halted.traceOfKill {status : Status} (h : Halted sb r s status)
    (hfails : r.waitFails = true) : Ending sb r (traceOfKill r s) := by
  unfold PtraceSandbox.traceOfKill
  cases h with
  | exited hmode hpermitted =>
      rw [hmode]
      exact .itself hpermitted
  | gone _ hmode _ hending =>
      rw [hmode]
      exact hending
  | signal b sig hmode _ _ hpermitted =>
      rw [hmode]
      exact .itself hpermitted
  | leaves hmode _ hpermitted =>
      rw [hmode]
      exact .itself hpermitted
  | enters p hmode _ hpermitted =>
      rw [hmode]
      exact .forced p (.inl hfails) hpermitted

/-- What the loop makes of an event. -/
inductive Handled (sb : PtSandbox) (r : Round) : System → Int → Prop where
  | goesOn {t} : Running sb t → Handled sb r t 0
  | ends {t} : Finished sb r t 0 → Handled sb r t 1
  | fails {t} (err : Int) : err < 0 → t.sandbox.pid = sb.pid → Ending sb r (traceOfKill r t) →
      (r.killed = true ∨ ∃ p, .exitForced p ∈ traceOfKill r t ∧ getAction sb p ≠ .ok ()) →
      Handled sb r t err

theorem getAction_error_neg {p : Stopped} {err : Int} (h : getAction sb p = .error err) :
    err < 0 := by
  unfold getAction at h
  dsimp only at h
  split_ifs at h
  · cases h
    decide
  · cases h
    decide
  · cases h
    decide
  · split at h
    · cases h
    · split at h
      · cases h
      · cases h
        decide

/-- `PTRACE_SYSCALL` at a stop that is not the entry of a call. -/
theorem continue_atStop {b : Bool} (sig : Nat) (hmode : s.mode = .atStop b) :
    ptraceSandboxContinueProcess s sig =
      ({ s with
          mode := if sig = sigkill then .dying else if b then .inCall else .user }, 0) := by
  unfold ptraceSandboxContinueProcess
  rw [hmode]
  dsimp only
  split_ifs <;> rfl

theorem continue_dead (sig : Nat) (hmode : s.mode = .dead) :
    ptraceSandboxContinueProcess s sig = (s, ptraceSandboxErrDead) := by
  unfold ptraceSandboxContinueProcess
  rw [hmode]

/-- Nothing can be done about a process that is gone. -/
theorem handleEvent_dead (hmode : s.mode = .dead) (status : Status) :
    ptraceSandboxHandleEvent s status = (setPid s (-1), 1) ∨
      ∃ b err, err < 0 ∧ ptraceSandboxHandleEvent s status = (setExit s b, err) := by
  have hsame : s = setExit s s.sandbox.isExit := rfl
  unfold ptraceSandboxHandleEvent
  cases status with
  | exited => exact .inl rfl
  | other => exact .inr ⟨s.sandbox.isExit, _, by decide, rfl⟩
  | stopped sig =>
      right
      dsimp only
      split_ifs
      · exact ⟨s.sandbox.isExit, _, by decide, continue_dead _ hmode⟩
      · exact ⟨s.sandbox.isExit, _, by decide, continue_dead _ hmode⟩
      · exact ⟨s.sandbox.isExit, _, by decide, rfl⟩
      · exact ⟨false, _, by decide, continue_dead _ hmode⟩
      · have haction : getActionOf (setExit s true) = .error ptraceSandboxErrDead := by
          unfold getActionOf setExit
          rw [hmode]
        rw [haction]
        exact ⟨true, _, by decide, rfl⟩

theorem Halted.handleEvent {status : Status} (h : Halted sb r s status)
    (htables : s.sandbox = { sb with isExit := s.sandbox.isExit }) :
    Handled sb r (ptraceSandboxHandleEvent s status).1 (ptraceSandboxHandleEvent s status).2 := by
  have hpid : s.sandbox.pid = sb.pid := by rw [htables]
  cases h with
  | exited hmode hpermitted =>
      exact .ends ⟨hmode, rfl, .itself hpermitted, fun hne => absurd rfl hne⟩
  | gone _ hmode hkilled hending =>
      rcases handleEvent_dead hmode status with heq | ⟨b, err, hneg, heq⟩
      · rw [heq]
        exact .ends ⟨hmode, rfl, hending, fun hne => absurd rfl hne⟩
      · rw [heq]
        have htrace : PtraceSandbox.traceOfKill r (setExit s b) = s.trace := by
          unfold PtraceSandbox.traceOfKill setExit
          rw [hmode]
          rfl
        exact .fails err hneg hpid (by rw [htrace]; exact hending) (.inl hkilled)
  | signal b sig hmode hexit hsig hpermitted =>
      unfold ptraceSandboxHandleEvent
      dsimp only
      rw [if_pos hsig, continue_atStop _ hmode]
      generalize (if sig = sigstop ∨ sig = sigcont then sigkill else sig) = delivered
      refine .goesOn ⟨htables, ?_, hpermitted⟩
      dsimp only
      split_ifs with hkill hb
      · exact .inr (.inr rfl)
      · exact .inr (.inl ⟨rfl, hexit.trans hb⟩)
      · exact .inl ⟨rfl, hexit.trans (Bool.eq_false_iff.mpr hb)⟩
  | leaves hmode hexit hpermitted =>
      unfold ptraceSandboxHandleEvent
      dsimp only
      rw [if_neg (by decide), if_neg (by decide), if_pos hexit,
        continue_atStop (s := setExit s false) 0 hmode]
      refine .goesOn ⟨?_, .inl ⟨rfl, rfl⟩, hpermitted⟩
      show { s.sandbox with isExit := false } = _
      rw [htables]
      rfl
  | enters p hmode hexit hpermitted =>
      have haction : getActionOf (setExit s true) = getAction sb p := by
        unfold getActionOf setExit
        rw [hmode]
        show getAction { s.sandbox with isExit := true } p = _
        rw [htables]
        rfl
      unfold ptraceSandboxHandleEvent
      dsimp only
      rw [if_neg (by decide), if_neg (by decide), if_neg (by rw [hexit]; decide), haction]
      cases hp : getAction sb p with
      | error err =>
          have htrace :
              PtraceSandbox.traceOfKill r (setExit s true) = .exitForced p :: s.trace := by
            unfold PtraceSandbox.traceOfKill setExit
            rw [hmode]
          have hrefused : getAction sb p ≠ .ok () := by
            intro hok
            rw [hp] at hok
            cases hok
          refine .fails err (getAction_error_neg hp) hpid ?_ (.inr ⟨p, ?_, hrefused⟩)
          · rw [htrace]
            exact .forced p (.inr hrefused) hpermitted
          · rw [htrace]
            exact List.mem_cons_self
      | ok _ =>
          have hcontinue : ptraceSandboxContinueProcess (setExit s true) 0 =
              ({ setExit s true with mode := .inCall, trace := .executed p :: s.trace }, 0) := by
            unfold ptraceSandboxContinueProcess setExit
            rw [hmode]
          dsimp only
          rw [hcontinue]
          refine .goesOn ⟨?_, .inr (.inl ⟨rfl, rfl⟩), hpermitted.cons hp⟩
          show { s.sandbox with isExit := true } = _
          rw [htables]
          rfl

/-- The process runs on under the policy, or there is an end to it. -/
theorem Running.oneRound (h : Running sb s) (hpid : sb.pid ≠ -1) :
    (∃ t, PtraceSandbox.oneRound r s = (t, none) ∧ Running sb t) ∨
      ∃ t ret, PtraceSandbox.oneRound r s = (t, some ret) ∧ Finished sb r t ret := by
  obtain ⟨hhalted, hsandbox⟩ := h.getEvent (r := r)
  have htables := h.tables
  rw [← hsandbox] at htables
  unfold PtraceSandbox.oneRound
  dsimp only
  by_cases hfails : r.waitFails = true
  · rw [if_pos hfails]
    refine .inr ⟨_, _, rfl, ?_⟩
    by_cases hrunning : r.running = true
    · rw [if_pos hrunning]
      have hpid' : s.sandbox.pid ≠ -1 := by
        rw [h.tables]
        exact hpid
      exact killProcesses_finished hpid' (h.traceOfKill hfails hrunning) (.inl hfails)
    · rw [if_neg hrunning]
      have hpid' : (ptraceSandboxGetEvent r s).1.sandbox.pid ≠ -1 := by
        rw [htables]
        exact hpid
      exact killProcesses_finished hpid' (hhalted.traceOfKill hfails) (.inl hfails)
  · rw [if_neg hfails]
    have hhandled := hhalted.handleEvent htables
    generalize ptraceSandboxHandleEvent (ptraceSandboxGetEvent r s).1
      (ptraceSandboxGetEvent r s).2 = handled at hhandled ⊢
    obtain ⟨t, ret⟩ := handled
    cases hhandled with
    | goesOn hrunning => exact .inl ⟨t, rfl, hrunning⟩
    | ends hfinished => exact .inr ⟨t, 0, rfl, hfinished⟩
    | fails _ hneg hpid' hending hcause =>
        dsimp only
        rw [if_pos hneg]
        exact .inr ⟨_, _, rfl,
          killProcesses_finished (by rw [hpid']; exact hpid) hending (.inr hcause)⟩

/-! ## Whole runs -/

theorem Running.eventLoop (hpid : sb.pid ≠ -1) (rounds : List Round) (h : Running sb s) :
    ((PtraceSandbox.eventLoop rounds s).2 = none ∧
      Running sb (PtraceSandbox.eventLoop rounds s).1) ∨
      ∃ r ∈ rounds, ∃ ret, (PtraceSandbox.eventLoop rounds s).2 = some ret ∧
        Finished sb r (PtraceSandbox.eventLoop rounds s).1 ret := by
  induction rounds generalizing s with
  | nil => exact .inl ⟨rfl, h⟩
  | cons r rounds ih =>
      unfold PtraceSandbox.eventLoop
      rcases h.oneRound (r := r) hpid with ⟨t, heq, hrunning⟩ | ⟨t, ret, heq, hfinished⟩
      · rw [heq]
        rcases ih hrunning with hon | ⟨r', hr', ret, hret, hfinished⟩
        · exact .inl hon
        · exact .inr ⟨r', List.mem_cons_of_mem r hr', ret, hret, hfinished⟩
      · rw [heq]
        exact .inr ⟨r, List.mem_cons_self, ret, rfl, hfinished⟩

theorem Ending.event {trace : List KernelEvent} (h : Ending sb r trace) {e : KernelEvent}
    (he : e ∈ trace) :
    (∃ p, e = .executed p ∧ getAction sb p = .ok ()) ∨
      (∃ p, e = .executedDying p ∧ r.Kills) ∨
        ∃ p, e = .exitForced p ∧ (r.waitFails = true ∨ getAction sb p ≠ .ok ()) := by
  cases h with
  | itself hpermitted => exact .inl (hpermitted e he)
  | sigkill p hkills hpermitted =>
      rcases List.mem_cons.mp he with rfl | he
      · exact .inr (.inl ⟨p, rfl, hkills⟩)
      · exact .inl (hpermitted e he)
  | forced p hcause hpermitted =>
      rcases List.mem_cons.mp he with rfl | he
      · exact .inr (.inr ⟨p, rfl, hcause⟩)
      · exact .inl (hpermitted e he)

theorem Ending.executed_permitted {trace : List KernelEvent} (h : Ending sb r trace) {p : Stopped}
    (hp : .executed p ∈ trace) : getAction sb p = .ok () := by
  rcases h.event hp with ⟨q, heq, hq⟩ | ⟨q, heq, _⟩ | ⟨q, heq, _⟩
  · cases heq
    exact hq
  · cases heq
  · cases heq

theorem Ending.kills_of_dying {trace : List KernelEvent} (h : Ending sb r trace) {p : Stopped}
    (hp : .executedDying p ∈ trace) : r.Kills := by
  rcases h.event hp with ⟨q, heq, _⟩ | ⟨q, heq, hkills⟩ | ⟨q, heq, _⟩
  · cases heq
  · exact hkills
  · cases heq

theorem Ending.cause_of_forced {trace : List KernelEvent} (h : Ending sb r trace) {p : Stopped}
    (hp : .exitForced p ∈ trace) : r.waitFails = true ∨ getAction sb p ≠ .ok () := by
  rcases h.event hp with ⟨q, heq, _⟩ | ⟨q, heq, _⟩ | ⟨q, heq, hcause⟩
  · cases heq
  · cases heq
  · cases heq
    exact hcause

/-- Only the newest event can be something else than a call that was checked. -/
theorem Ending.tail {trace : List KernelEvent} (h : Ending sb r trace) :
    Permitted sb trace.tail := by
  cases h with
  | itself hpermitted => exact fun e he => hpermitted e (List.mem_of_mem_tail he)
  | sigkill _ _ hpermitted => exact hpermitted
  | forced _ _ hpermitted => exact hpermitted

end

/-- What the supervisor guarantees for a policy. -/
structure Mediated (sb : PtSandbox) (killed : Bool) (rounds : List Round) (s : System)
    (ret : Option Int) : Prop where
  executed : ∀ p, .executed p ∈ s.trace → getAction sb p = .ok ()
  /-- A call escapes the check only at the moment of death, and by a `SIGKILL`. -/
  dying : ∀ p, .executedDying p ∈ s.trace →
    s.mode = .dead ∧ (∃ r ∈ rounds, r.Kills) ∧ Permitted sb s.trace.tail
  /-- The supervisor replaces a call only when it may not be made. -/
  forced : ∀ p, .exitForced p ∈ s.trace →
    (∃ r ∈ rounds, r.waitFails = true) ∨ getAction sb p ≠ .ok ()
  supervised : ret = none → Permitted sb s.trace
  gone : ret ≠ none → s.mode = .dead ∧ s.sandbox.pid = -1
  cause : ret = some (-1) → killed = true ∨
    (∃ r ∈ rounds, r.waitFails = true ∨ r.killed = true) ∨
      ∃ p, .exitForced p ∈ s.trace ∧ getAction sb p ≠ .ok ()

theorem Running.mediated {sb : PtSandbox} {s : System} (h : Running sb s) (hpid : sb.pid ≠ -1)
    (rounds : List Round) :
    Mediated sb false rounds (PtraceSandbox.eventLoop rounds s).1
      (PtraceSandbox.eventLoop rounds s).2 := by
  rcases h.eventLoop hpid rounds with ⟨hnone, hrunning⟩ | ⟨r, hr, ret, hret, hfinished⟩
  · have hending : ∀ r, Ending sb r (PtraceSandbox.eventLoop rounds s).1.trace :=
      fun r => .itself hrunning.permitted
    rw [hnone]
    refine ⟨fun p hp => (hending {}).executed_permitted hp, fun p hp => ?_, fun p hp => ?_,
      fun _ => hrunning.permitted, fun hne => absurd rfl hne, fun hneg => ?_⟩
    · rcases (hending {}).kills_of_dying hp with hkilled | hfails
      · cases hkilled
      · cases hfails.1
    · exact .inr (((hending {}).cause_of_forced hp).resolve_left (by decide))
    · cases hneg
  · obtain ⟨hdead, hgone, hending, hcause⟩ := hfinished
    rw [hret]
    refine ⟨fun p hp => hending.executed_permitted hp, fun p hp => ?_, fun p hp => ?_,
      fun hne => ?_, fun _ => ⟨hdead, hgone⟩, fun hneg => ?_⟩
    · exact ⟨hdead, ⟨r, hr, hending.kills_of_dying hp⟩, hending.tail⟩
    · exact (hending.cause_of_forced hp).imp_left fun hfails => ⟨r, hr, hfails⟩
    · cases hne
    · cases hneg
      rcases hcause (by decide) with hfails | hkilled | hrefused
      · exact .inr (.inl ⟨r, hr, .inl hfails⟩)
      · exact .inr (.inl ⟨r, hr, .inr hkilled⟩)
      · exact .inr (.inr hrefused)

theorem Running.start (sb : PtSandbox) (hexit : sb.isExit = false) :
    Running sb { sandbox := sb } :=
  ⟨rfl, .inl ⟨rfl, hexit⟩, fun _ he => absurd he List.not_mem_nil⟩

/-- A process that was killed before it went on has had nothing from the kernel. -/
theorem mediated_killed {sb : PtSandbox} (hpid : sb.pid ≠ -1) (rounds : List Round) :
    Mediated sb true rounds (ptraceSandboxRunProcesses sb true rounds).1
      (ptraceSandboxRunProcesses sb true rounds).2 := by
  have hrun : ptraceSandboxRunProcesses sb true rounds =
      ({ sandbox := { sb with pid := -1 }, mode := .dead }, some (-1)) := by
    show (ptraceSandboxKillProcesses {} { sandbox := sb, mode := .dead }, some (-1)) = _
    rw [killProcesses_eq hpid]
    rfl
  have hempty : ∀ e : KernelEvent, e ∉ ([] : List KernelEvent) := fun _ => List.not_mem_nil
  rw [hrun]
  exact ⟨fun _ hp => absurd hp (hempty _), fun _ hp => absurd hp (hempty _),
    fun _ hp => absurd hp (hempty _), fun _ e he => absurd he (hempty e), fun _ => ⟨rfl, rfl⟩,
    fun _ => .inl rfl⟩

/-- Whatever the process does, and whoever kills it, the kernel does for it only what the
policy permits. -/
theorem ptraceSandboxRunProcesses_mediates {sb : PtSandbox} (hpid : sb.pid ≠ -1)
    (hexit : sb.isExit = false) (killed : Bool) (rounds : List Round) :
    Mediated sb killed rounds (ptraceSandboxRunProcesses sb killed rounds).1
      (ptraceSandboxRunProcesses sb killed rounds).2 := by
  cases killed with
  | true => exact mediated_killed hpid rounds
  | false => exact (Running.start sb hexit).mediated hpid rounds

/-- A process that reads something and then wants to fork. -/
def forkingProcess : List Round :=
  [{ inUser := .call { regs := { origEax := nrRead } } }, {},
   { inUser := .call { regs := { origEax := 2 } } }]

theorem ptraceSandboxRunProcesses_mediates_fork :
    let sb : PtSandbox := { toPolicy := ({} : Policy).permitRead, pid := 77 }
    (ptraceSandboxRunProcesses sb false forkingProcess).2 = some (-1) ∧
      Mediated sb false forkingProcess (ptraceSandboxRunProcesses sb false forkingProcess).1
        (ptraceSandboxRunProcesses sb false forkingProcess).2 :=
  ⟨rfl, ptraceSandboxRunProcesses_mediates (by decide) rfl false forkingProcess⟩

end Vsftpd.PtraceSandbox
