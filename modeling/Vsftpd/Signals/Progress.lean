import Mathlib.Algebra.GroupWithZero.Nat
import Vsftpd.Signals.NextCheck

/-!
# A check comes to an end

Each statement brings the latest call nearer to its end, and a process that is in a call always
has a next statement or a handler that may return.  When the main program is back from a check,
what was pending has been handled, whatever the handlers called on their way.
-/

namespace Vsftpd.Signals

open Vsftpd.Lib

variable {H : Type} {p q : Process H} {acts more : List Act} {i : Nat}

/-! ## The statements that are left -/

def Phase.left : Phase → Nat
  | .test => 10
  | .enter => 17
  | .disarm => 16
  | .look => 15
  | .take => 14
  | .call => 13
  | .inside => 12
  | .leave => 11

def IoPhase.left : IoPhase → Nat
  | .test => 14
  | .enter => 13
  | .inside => 12
  | .leave => 11

/-- No less than the number of statements that are left of a call; a signal takes ten. -/
def Frame.left : Frame H → Nat
  | .io phase _ => phase.left + 10 * nsig
  | .sig .test i => Phase.test.left + 10 * (nsig - i)
  | .sig phase i => phase.left + 10 * (nsig - (i + 1))
  | .assign todo => todo.length + 1

def Process.left (p : Process H) : Nat := (p.frames.map Frame.left).sum

/-- More statements than a check has, without what the handlers do. -/
def checkStatements : Nat := IoPhase.test.left + 10 * nsig

/-- The statements that a call takes. -/
def Event.cost : Event H → Nat
  | .check _ => checkStatements
  | .install sig handler useAlarm => (vsfSysutilInstallSighandler sig handler useAlarm).length + 1
  | .installNull sig =>
    (vsfSysutilInstallNullSighandler sig : List (Assignment H)).length + 1
  | .defaultSig sig => (vsfSysutilDefaultSig sig : List (Assignment H)).length + 1
  | .fork => (vsfSysutilPostFork : List (Assignment H)).length + 1
  | _ => 0

/-- A statement of a call, or the return of a handler to it. -/
def Event.isStatement : Event H → Bool
  | .advance | .returns => true
  | _ => false

theorem left_of_top {frame next : Frame H} {rest : List (Frame H)} (top : p.frames = frame :: rest)
    (frames : q.frames = next :: rest) (h : next.left < frame.left) : q.left < p.left := by
  unfold Process.left
  rw [top, frames, List.map_cons, List.map_cons, List.sum_cons, List.sum_cons]
  omega

theorem left_of_pop {frame : Frame H} (top : p.frames = frame :: q.frames)
    (h : 0 < frame.left) : q.left < p.left := by
  unfold Process.left
  rw [top, List.map_cons, List.sum_cons]
  omega

theorem left_of_push {frame : Frame H} (frames : q.frames = frame :: p.frames) :
    q.left = frame.left + p.left := by
  unfold Process.left
  rw [frames, List.map_cons, List.sum_cons]

theorem left_of_frames (h : q.frames = p.frames) : q.left = p.left := by
  unfold Process.left
  rw [h]

theorem frames_deliver (p : Process H) (signum : Nat) : (deliver p signum).1.frames = p.frames := by
  unfold deliver vsfSysutilCommonSighandler
  split
  · rfl
  · split_ifs <;> rfl
  · rfl

theorem left_of_ioStep {context : Context} {rest : List (Frame H)} {phase : IoPhase}
    (top : p.frames = .io phase context :: rest)
    (h : ioStep p context rest phase = some (q, acts)) : q.left < p.left := by
  cases phase with
  | test =>
      unfold ioStep at h
      split_ifs at h
      · obtain ⟨rfl, rfl⟩ := Prod.mk.inj (Option.some.inj h)
        exact left_of_top top rfl (Nat.add_lt_add_right (by decide) _)
      · obtain ⟨rfl, rfl⟩ := Prod.mk.inj (Option.some.inj h)
        exact left_of_top top rfl (Nat.add_lt_add_right (by decide) _)
  | enter =>
      obtain ⟨rfl, rfl⟩ := Prod.mk.inj (Option.some.inj h)
      exact left_of_top top rfl (Nat.add_lt_add_right (by decide) _)
  | inside => cases h
  | leave =>
      obtain ⟨rfl, rfl⟩ := Prod.mk.inj (Option.some.inj h)
      exact left_of_top top rfl (Nat.add_lt_add_right (by decide) _)

theorem left_of_sigStep {rest : List (Frame H)} {phase : Phase}
    (top : p.frames = .sig phase i :: rest) (h : sigStep p i rest phase = some (q, acts)) :
    q.left < p.left := by
  have hnext {next : Frame H} (frames : q.frames = next :: rest)
      (hleft : next.left < (Frame.sig phase i : Frame H).left) : q.left < p.left :=
    left_of_top top frames hleft
  unfold sigStep at h
  cases phase with
  | test =>
      dsimp only at h
      split_ifs at h with hi hpending
      · obtain ⟨rfl, rfl⟩ := Prod.mk.inj (Option.some.inj h)
        refine hnext rfl ?_
        simp only [Frame.left, Phase.left]
        omega
      · obtain ⟨rfl, rfl⟩ := Prod.mk.inj (Option.some.inj h)
        refine hnext rfl ?_
        simp only [Frame.left, Phase.left]
        omega
      · obtain ⟨rfl, rfl⟩ := Prod.mk.inj (Option.some.inj h)
        exact left_of_pop top (Nat.add_pos_left (by decide) _)
  | disarm =>
      dsimp only at h
      split_ifs at h
      · obtain ⟨rfl, rfl⟩ := Prod.mk.inj (Option.some.inj h)
        exact hnext rfl (Nat.add_lt_add_right (by decide) _)
      · obtain ⟨rfl, rfl⟩ := Prod.mk.inj (Option.some.inj h)
        exact hnext rfl (Nat.add_lt_add_right (by decide) _)
  | look =>
      dsimp only at h
      split_ifs at h
      · obtain ⟨rfl, rfl⟩ := Prod.mk.inj (Option.some.inj h)
        exact hnext rfl (Nat.add_lt_add_right (by decide) _)
      · obtain ⟨rfl, rfl⟩ := Prod.mk.inj (Option.some.inj h)
        exact hnext rfl (Nat.add_lt_add_right (by decide) _)
  | inside => cases h
  | enter =>
      obtain ⟨rfl, rfl⟩ := Prod.mk.inj (Option.some.inj h)
      exact hnext rfl (Nat.add_lt_add_right (by decide) _)
  | take =>
      obtain ⟨rfl, rfl⟩ := Prod.mk.inj (Option.some.inj h)
      exact hnext rfl (Nat.add_lt_add_right (by decide) _)
  | call =>
      obtain ⟨rfl, rfl⟩ := Prod.mk.inj (Option.some.inj h)
      exact hnext rfl (Nat.add_lt_add_right (by decide) _)
  | leave =>
      obtain ⟨rfl, rfl⟩ := Prod.mk.inj (Option.some.inj h)
      exact hnext rfl (Nat.add_lt_add_right (by decide) _)

theorem left_of_advance (h : advance p = some (q, acts)) : q.left < p.left := by
  unfold advance at h
  cases top : p.frames with
  | nil =>
      rw [top] at h
      cases h
  | cons frame rest =>
      rw [top] at h
      cases frame with
      | io phase context => exact left_of_ioStep top h
      | sig phase i => exact left_of_sigStep top h
      | assign todo =>
          cases todo with
          | nil =>
              obtain ⟨rfl, rfl⟩ := Prod.mk.inj (Option.some.inj h)
              exact left_of_pop top (Nat.succ_pos _)
          | cons a todo =>
              obtain ⟨rfl, rfl⟩ := Prod.mk.inj (Option.some.inj h)
              exact left_of_top top rfl (Nat.lt_succ_self _)

theorem left_of_returns (h : handlerReturns p = some (q, acts)) : q.left < p.left := by
  unfold handlerReturns at h
  split at h
  · rename_i top
    obtain ⟨rfl, rfl⟩ := Prod.mk.inj (Option.some.inj h)
    exact left_of_top top rfl (Nat.add_lt_add_right (by decide) _)
  · rename_i top
    obtain ⟨rfl, rfl⟩ := Prod.mk.inj (Option.some.inj h)
    exact left_of_top top rfl (Nat.add_lt_add_right (by decide) _)
  · cases h

/-- A statement is one less, and a call brings its own. -/
theorem left_of_step {event : Event H} (h : step p event = some (q, more)) :
    (if event.isStatement then 1 else 0) + q.left ≤ p.left + event.cost := by
  have hcall {frame : Frame H} {result : Process H × List Act}
      (hresult : ifInCode p (some result) = some (q, more))
      (frames : result.1.frames = frame :: p.frames) : q.left = frame.left + p.left := by
    obtain ⟨-, heq⟩ := ifInCode_eq_some hresult
    refine left_of_push ?_
    rw [← frames, Option.some.inj heq]
  have hsame {result : Option (Process H × List Act)}
      (hresult : ifInCode p result = some (q, more))
      (frames : ∀ r ∈ result, r.1.frames = p.frames) : q.left = p.left := by
    obtain ⟨-, heq⟩ := ifInCode_eq_some hresult
    exact left_of_frames (frames _ heq)
  cases event with
  | deliver signum =>
      have hq : (deliver p signum).1 = q := congrArg Prod.fst (Option.some.inj h)
      rw [← hq, left_of_frames (frames_deliver p signum)]
      exact Nat.le_of_eq (Nat.zero_add _)
  | expire =>
      rw [step] at h
      split_ifs at h
      have hq : (deliver { p with armed := false } sigalrm).1 = q :=
        congrArg Prod.fst (Option.some.inj h)
      have hframes : q.frames = p.frames := by
        rw [← hq]
        exact frames_deliver { p with armed := false } sigalrm
      rw [left_of_frames hframes]
      exact Nat.le_of_eq (Nat.zero_add _)
  | advance =>
      have hleft := left_of_advance h
      show 1 + q.left ≤ p.left + 0
      omega
  | returns =>
      have hleft := left_of_returns h
      show 1 + q.left ≤ p.left + 0
      omega
  | check context =>
      rw [hcall h rfl, Nat.add_comm p.left]
      exact Nat.le_of_eq (Nat.zero_add _)
  | install sig handler useAlarm =>
      rw [hcall h rfl, Nat.add_comm p.left]
      exact Nat.le_of_eq (Nat.zero_add _)
  | installNull sig =>
      rw [hcall h rfl, Nat.add_comm p.left]
      exact Nat.le_of_eq (Nat.zero_add _)
  | defaultSig sig =>
      rw [hcall h rfl, Nat.add_comm p.left]
      exact Nat.le_of_eq (Nat.zero_add _)
  | fork =>
      rw [hcall h rfl, Nat.add_comm p.left]
      exact Nat.le_of_eq (Nat.zero_add _)
  | installIo handler =>
      have hleft := hsame h fun r hr => by
        unfold vsfSysutilInstallIoHandler at hr
        obtain ⟨-, heq⟩ := Option.ite_none_left_eq_some.mp hr
        rw [← Option.some.inj heq]
      rw [hleft]
      exact Nat.le_of_eq (Nat.zero_add _)
  | uninstallIo =>
      have hleft := hsame h fun r hr => by
        unfold vsfSysutilUninstallIoHandler at hr
        obtain ⟨-, heq⟩ := Option.ite_none_right_eq_some.mp hr
        rw [← Option.some.inj heq]
      rw [hleft]
      exact Nat.le_of_eq (Nat.zero_add _)
  | setAlarm triggerSeconds =>
      have hleft := hsame h fun r hr => by
        rw [← Option.some.inj hr]
        rfl
      rw [hleft]
      exact Nat.le_of_eq (Nat.zero_add _)

/-- What the calls of some events bring bounds the statements among them. -/
theorem left_of_events {events : List (Event H)} {r : Process H × List Act}
    (h : runEvents (p, acts) events = some r) :
    events.countP Event.isStatement + r.1.left ≤ p.left + (events.map Event.cost).sum := by
  induction events generalizing p acts with
  | nil =>
      rw [← Option.some.inj h]
      simp
  | cons event events ih =>
      cases hstep : step p event with
      | none =>
          rw [runEvents, hstep] at h
          cases h
      | some out =>
          rw [runEvents, hstep] at h
          have hrest := ih h
          have hfirst := left_of_step hstep
          rw [List.countP_cons, List.map_cons, List.sum_cons]
          omega

theorem run_of_events {events : List (Event H)} {r : Process H × List Act}
    (h : runEvents (p, acts) events = some r) : ∃ more, r.2 = acts ++ more ∧ Run p more r.1 := by
  induction events generalizing p acts with
  | nil =>
      rw [← Option.some.inj h]
      exact ⟨[], (List.append_nil acts).symm, .nil p⟩
  | cons event events ih =>
      cases hstep : step p event with
      | none =>
          rw [runEvents, hstep] at h
          cases h
      | some out =>
          rw [runEvents, hstep] at h
          obtain ⟨more, hmore, hrun⟩ := ih h
          have hfirst : Run p out.2 out.1 := (Run.nil p).snoc event hstep
          exact ⟨out.2 ++ more, by rw [hmore, List.append_assoc], hfirst.trans hrun⟩

/-- A process that is in a call has a next statement, or a handler that may return. -/
theorem exists_statement (h : p.frames ≠ []) :
    ∃ event : Event H, event.isStatement = true ∧ (step p event).isSome = true := by
  cases top : p.frames with
  | nil => exact absurd top h
  | cons frame rest =>
      cases frame with
      | io phase context =>
          cases phase with
          | inside => exact ⟨.returns, rfl, by simp [step, handlerReturns, top]⟩
          | test =>
              refine ⟨.advance, rfl, ?_⟩
              simp only [step, advance, top, ioStep]
              split_ifs <;> rfl
          | _ => exact ⟨.advance, rfl, by simp [step, advance, top, ioStep]⟩
      | sig phase i =>
          cases phase with
          | inside => exact ⟨.returns, rfl, by simp [step, handlerReturns, top]⟩
          | test =>
              refine ⟨.advance, rfl, ?_⟩
              simp only [step, advance, top, sigStep]
              split_ifs <;> rfl
          | disarm =>
              refine ⟨.advance, rfl, ?_⟩
              simp only [step, advance, top, sigStep]
              split_ifs <;> rfl
          | look =>
              refine ⟨.advance, rfl, ?_⟩
              simp only [step, advance, top, sigStep]
              split_ifs <;> rfl
          | _ => exact ⟨.advance, rfl, by simp [step, advance, top, sigStep]⟩
      | assign todo =>
          refine ⟨.advance, rfl, ?_⟩
          simp only [step, advance, top]
          cases todo <;> rfl

/-! ## What a check does -/

theorem Concerns.owed_le (h : Concerns i p q more) (dropped : .dropped i ∉ more) :
    p.owed i ≤ more.count (.started i) + q.owed i := by
  have hle : (p.details i).pending.toNat ≤ 1 := Bool.toNat_le _
  unfold Process.owed
  cases h with
  | aside none pending calling =>
      rw [pending, calling]
      omega
  | noted pending calling =>
      rw [pending, calling, Bool.toNat_true]
      omega
  | taken top pending calling =>
      obtain ⟨rest, top⟩ := top
      have hcalling : p.calling i = false := calling_of_top top (by simp) i
      rw [pending, calling, hcalling, Bool.toNat_true, Bool.toNat_false]
      omega
  | called was pending calling =>
      have hone : List.count (Act.started i) [.started i] = 1 := List.count_singleton_self
      rw [pending, calling, was, hone, Bool.toNat_true, Bool.toNat_false]
      omega
  | dropped pending calling => exact absurd (List.mem_singleton.mpr rfl) dropped

/-- What is owed is called, or still owed. -/
theorem Run.owed_le (run : Run p acts q) (hn : Nested p) (dropped : .dropped i ∉ acts) :
    p.owed i ≤ acts.count (.started i) + q.owed i := by
  induction run with
  | nil => omega
  | snoc run event h ih =>
      have hfirst := ih fun hmem => dropped (List.mem_append_left _ hmem)
      have hlast := ((change_of_step h).concerns (run.nested hn) i).owed_le
        fun hmem => dropped (List.mem_append_right _ hmem)
      rw [List.count_append]
      omega

theorem owed_idle (idle : p.frames = []) (i : Nat) : p.owed i = (p.details i).pending.toNat := by
  unfold Process.owed Process.calling
  rw [idle]
  rfl

/-- A check that the main program makes takes a bounded number of statements beside those of the
calls that its handlers make, and it is never stuck.  When it is over, a handler that stayed
installed was called once if its signal was pending, and else not, and the signal is not pending
any more, unless it came again. -/
theorem check_handlesAll (hp : Fresh p) (run : Run p acts q) (idle : q.frames = [])
    (context : Context) {events : List (Event H)} {r : Process H × List Act}
    (h : runEvents (checkPendingActions q context) events = some r) :
    (events.countP Event.isStatement + r.1.left ≤
        checkStatements + (events.map Event.cost).sum ∧
      (r.1.frames ≠ [] →
        ∃ event : Event H, event.isStatement = true ∧ (step r.1 event).isSome = true)) ∧
    ∀ i < nsig, (q.details i).syncSigHandler.isSome = true → .changed i ∉ r.2 →
      .accepted i ∉ r.2 → .dropped i ∉ r.2 → r.1.frames = [] →
      (r.1.details i).pending = false ∧
        r.2.count (.started i) = (q.details i).pending.toNat := by
  have hcheck : checkPendingActions q context =
      ({ q with frames := [.io .test context] }, [.began]) := by
    unfold checkPendingActions
    rw [idle]
    rfl
  have hstep : step q (.check context) = some (checkPendingActions q context) := by
    have hcode : q.inCode = true := by
      unfold Process.inCode
      rw [idle]
    exact if_pos hcode
  rw [hcheck] at h hstep
  have hbegun : Run q [.began] { q with frames := [.io .test context] } :=
    (Run.nil q).snoc (.check context) hstep
  have hnested : Nested q := run.nested hp.nested
  refine ⟨⟨?_, exists_statement⟩, ?_⟩
  · have hleft := left_of_events h
    have hfirst : ({ q with frames := [.io .test context] } : Process H).left = checkStatements :=
      Nat.add_zero _
    rw [hfirst] at hleft
    exact hleft
  · intro i hi handled unchanged unaccepted undropped hidle
    have hrun : Run q r.2 r.1 := hbegun.events h
    have hpending : (r.1.details i).pending = false := by
      obtain ⟨more, hmore, hafter⟩ := run_of_events h
      rw [hmore] at unchanged unaccepted
      have hnoticed : Noticed i r.1 ([.began] ++ more) :=
        hafter.noticed (hbegun.nested hnested) hi handled
          (fun hmem => unchanged (List.mem_append_right _ hmem))
          fun _ => .inr ⟨.io .test context, rfl, rfl⟩
      by_contra hnot
      rcases hnoticed (Bool.not_eq_false _ ▸ hnot) with hsince | ⟨frame, hframe, -⟩
      · obtain ⟨before, act, after, hsplit, rfl, -⟩ := hsince
        refine unaccepted ?_
        rw [hsplit]
        exact List.mem_append_right _ List.mem_cons_self
      · rw [hidle] at hframe
        cases hframe
    refine ⟨hpending, ?_⟩
    have hmost := hrun.count hnested (run.marked hp.nested hp.marked) i
    have hleast := hrun.owed_le hnested undropped
    rw [owed_idle hidle, owed_idle idle, hpending, Bool.toNat_false] at hmost hleast
    rw [List.count_eq_zero_of_not_mem unaccepted] at hmost
    omega

/-- The handler of SIGHUP reads a file, and so checks again. -/
def hupCheck : List (Event Unit) :=
  List.replicate 8 .advance ++ [.check .io] ++ List.replicate 67 .advance ++ [.returns] ++
    List.replicate 65 .advance

def rechecked : Process Unit × List Act :=
  (runEvents (checkPendingActions checked.1 .io) hupCheck).getD (listener, [])

/-- The SIGHUP that came when its number had passed is handled by the next check. -/
theorem check_handlesAll_listener :
    rechecked.1.frames = [] ∧ (rechecked.1.details 1).pending = false ∧
      rechecked.2.count (.started 1) = 1 := by
  have hidle : checked.1.frames = [] := by decide +kernel
  have hsome : (runEvents (checkPendingActions checked.1 .io) hupCheck).isSome = true := by
    decide +kernel
  obtain ⟨r, hr⟩ := Option.isSome_iff_exists.mp hsome
  have hdone : rechecked = r := by
    unfold rechecked
    rw [hr]
    rfl
  have hback : rechecked.1.frames = [] := by decide +kernel
  have hcheck := (check_handlesAll listener_fresh listener_checked hidle .io hr).2 1 (by decide)
    (by decide +kernel)
  rw [← hdone] at hcheck
  have hafter := hcheck (by decide +kernel) (by decide +kernel) (by decide +kernel) hback
  have hpending : (checked.1.details 1).pending = true := by decide +kernel
  rw [hpending] at hafter
  exact ⟨hback, hafter⟩

end Vsftpd.Signals
