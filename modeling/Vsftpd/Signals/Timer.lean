import Vsftpd.Signals.NextCheck

/-!
# The timer

A signal may come just before a call that blocks.  For the signals that use it, the timer wakes
the process each second until they are handled.
-/

namespace Vsftpd.Signals

open Vsftpd.Lib

variable {H : Type} {p q : Process H} {acts more : List Act} {i : Nat}

/-- The timer runs while the signal is pending, but for the moment in which it is taken, unless
it was stopped for another signal since. -/
def Timed (i : Nat) (p : Process H) (acts : List Act) : Prop :=
  (p.details i).pending = true → p.armed = true ∨
    Since (fun act => ∃ j, j ≠ i ∧ act = .disarmed j) (· = .accepted i) acts ∨
    ∃ rest, p.frames = .sig .look i :: rest ∨ p.frames = .sig .take i :: rest

/-- Nothing is noted that has to do with the timer of the signal. -/
def Untimed (i : Nat) (acts : List Act) : Prop := .accepted i ∉ acts ∧ ∀ j, .disarmed j ∉ acts

theorem since_untimed (h : Untimed i more) :
    Since (fun act => ∃ j, j ≠ i ∧ act = .disarmed j) (· = .accepted i) (acts ++ more) ↔
      Since (fun act => ∃ j, j ≠ i ∧ act = .disarmed j) (· = .accepted i) acts := by
  refine since_append fun act hact => ⟨?_, ?_⟩
  · rintro ⟨j, -, rfl⟩
    exact h.2 j hact
  · rintro rfl
    exact h.1 hact

theorem Timed.go (hp : Timed i p acts) (untimed : Untimed i more)
    (pending : (q.details i).pending = true → (p.details i).pending = true)
    (armed : p.armed = true → q.armed = true)
    (top : ∀ rest, p.frames = .sig .look i :: rest ∨ p.frames = .sig .take i :: rest →
      (q.details i).pending = true →
      ∃ rest, q.frames = .sig .look i :: rest ∨ q.frames = .sig .take i :: rest) :
    Timed i q (acts ++ more) := by
  intro hq
  rw [since_untimed untimed]
  rcases hp (pending hq) with harmed | hstopped | ⟨rest, hrest⟩
  · exact .inl (armed harmed)
  · exact .inr (.inl hstopped)
  · exact .inr (.inr (top rest hrest hq))

/-- The latest call goes on, and it is not at the moment in which the signal is taken. -/
theorem Timed.other (hp : Timed i p acts) {frame : Frame H} {rest : List (Frame H)}
    (top : p.frames = frame :: rest) (untimed : Untimed i more)
    (pending : (q.details i).pending = true → (p.details i).pending = true)
    (armed : q.armed = p.armed) (hframe : frame ≠ .sig .look i ∧ frame ≠ .sig .take i) :
    Timed i q (acts ++ more) := by
  refine hp.go untimed pending (fun h => armed.trans h) fun rest' h => ?_
  rw [top] at h
  rcases h with h | h
  · exact absurd (List.cons.inj h).1 hframe.1
  · exact absurd (List.cons.inj h).1 hframe.2

theorem untimed_nil (i : Nat) : Untimed i [] :=
  ⟨List.not_mem_nil, fun _ => List.not_mem_nil⟩

/-- Another call is made, by the main program or by a handler. -/
theorem Timed.push (hp : Timed i p acts) (inCode : p.inCode = true) (untimed : Untimed i more)
    (details : q.details = p.details) (armed : q.armed = p.armed) : Timed i q (acts ++ more) := by
  refine hp.go untimed ?_ (fun h => armed.trans h) fun rest h => ?_
  · rw [details]
    exact id
  · rcases h with h | h
    · cases phase_of_inCode inCode h
    · cases phase_of_inCode inCode h

theorem Change.timed (h : Change p q more) (alrm : p.disposition sigalrm = .alrm)
    (handled : (p.details i).syncSigHandler.isSome = true)
    (useAlarm : (p.details i).useAlarm = true) (untouched : .retimed ∉ more)
    (hp : Timed i p acts) : Timed i q (acts ++ more) := by
  cases h with
  | ignored armed kept =>
      exact hp.go (untimed_nil i) id (fun h => kept ⟨alrm, h⟩) fun rest h _ => ⟨rest, h⟩
  | noted j armed _ set kept =>
      by_cases hij : i = j
      · subst hij
        exact fun _ => .inl (set useAlarm)
      · refine hp.go ⟨by simp [hij], by simp⟩ ?_ (fun h => kept ⟨alrm, h⟩) fun rest h _ => ⟨rest, h⟩
        exact fun h => (update_pending fun hji => absurd hji hij).symm.trans h
  | check context inCode =>
      refine hp.push inCode ?_ rfl rfl
      split
      · exact ⟨by simp, by simp⟩
      · exact untimed_nil i
  | assigns todo inCode => exact hp.push inCode (untimed_nil i) rfl rfl
  | forks todo inCode => exact absurd (List.mem_singleton.mpr rfl) untouched
  | alarm armed => exact absurd (List.mem_singleton.mpr rfl) untouched
  | ioHandler handler inCode => exact hp.go (untimed_nil i) id id fun rest h _ => ⟨rest, h⟩
  | ioSkip top => exact hp.other top (untimed_nil i) id rfl (by simp)
  | ioEnter top handled free => exact hp.other top (untimed_nil i) id rfl (by simp)
  | ioCall top => exact hp.other top (untimed_nil i) id rfl (by simp)
  | ioReturn top => exact hp.other top (untimed_nil i) id rfl (by simp)
  | ioLeave top => exact hp.other top (untimed_nil i) id rfl (by simp)
  | done top last => exact hp.other top (untimed_nil i) id rfl (by simp)
  | skip top inside passed => exact hp.other top (untimed_nil i) id rfl (by simp)
  | enter top pending free => exact hp.other top (untimed_nil i) id rfl (by simp)
  | run top => exact hp.other top (untimed_nil i) (pending_of_update id) rfl (by simp)
  | @disarm j rest top =>
      intro hq
      by_cases hij : i = j
      · subst hij
        exact .inr (.inr ⟨rest, .inl rfl⟩)
      · exact .inr (.inl (since_concat.mpr (.inl ⟨j, fun hji => hij hji.symm, rfl⟩)))
  | keep top => exact hp.other top (untimed_nil i) id rfl (by simp)
  | @look j rest top _ =>
      refine hp.go (untimed_nil i) id id fun rest' h _ => ⟨rest, ?_⟩
      rw [top] at h
      rcases h with h | h
      · cases h
        exact .inr rfl
      · cases h
  | @lookAway j rest top unhandled =>
      refine hp.other top (untimed_nil i) id rfl ⟨?_, by simp⟩
      rintro ⟨⟩
      rw [handled] at unhandled
      cases unhandled
  | @take j rest top =>
      refine hp.go ⟨by simp, by simp⟩ (pending_of_update fun h => by cases h) id
        fun rest' h hq => ?_
      rw [top] at h
      rcases h with h | h
      · cases h
      · cases h
        cases (update_self_pending p.details _ i).symm.trans hq
  | call top => exact hp.other top ⟨by simp, by simp⟩ id rfl (by simp)
  | returns top => exact hp.other top (untimed_nil i) id rfl (by simp)
  | leave top => exact hp.other top (untimed_nil i) (pending_of_update id) rfl (by simp)
  | @assign a todo rest top =>
      cases a with
      | syncSigHandler sig handler =>
          exact hp.other top ⟨by simp [Signals.assign], by simp [Signals.assign]⟩
            (pending_of_update id) rfl (by simp)
      | useAlarm sig useAlarm =>
          exact hp.other top ⟨by simp [Signals.assign], by simp [Signals.assign]⟩
            (pending_of_update id) rfl (by simp)
      | notPending sig =>
          exact hp.other top ⟨by simp [Signals.assign], by simp [Signals.assign]⟩
            (pending_of_update fun h => by cases h) rfl (by simp)
      | noIoHandler => exact hp.other top (untimed_nil i) id rfl (by simp)
      | disposition sig disposition =>
          refine hp.other top ?_ id rfl (by simp)
          unfold Signals.assign
          dsimp only
          split
          · exact ⟨by simp, by simp⟩
          · exact untimed_nil i
  | assigned top => exact hp.other top (untimed_nil i) id rfl (by simp)

theorem Change.alrm (h : Change p q more) (alrm : p.disposition sigalrm = .alrm)
    (untouched : .retimed ∉ more) : q.disposition sigalrm = .alrm := by
  cases h with
  | @assign a todo rest top =>
      cases a with
      | disposition sig disposition =>
          show Function.update p.disposition sig disposition sigalrm = .alrm
          by_cases hsig : sigalrm = sig
          · by_contra hother
            rw [← hsig, Function.update_self] at hother
            have hnoted : (Signals.assign p (.disposition sig disposition)).2 = [.retimed] :=
              if_pos ⟨hsig.symm, hother⟩
            rw [hnoted] at untouched
            exact untouched (List.mem_singleton.mpr rfl)
          · rw [Function.update_of_ne hsig]
            exact alrm
      | _ => exact alrm
  | _ => exact alrm

theorem Run.alrm (run : Run p acts q) (alrm : p.disposition sigalrm = .alrm)
    (untouched : .retimed ∉ acts) : q.disposition sigalrm = .alrm := by
  induction run with
  | nil => exact alrm
  | snoc run event h ih =>
      refine (change_of_step h).alrm (ih fun hmem => untouched (List.mem_append_left _ hmem)) ?_
      exact fun hmem => untouched (List.mem_append_right _ hmem)

theorem Run.timed (run : Run p acts q) (hp : Fresh p) (alrm : p.disposition sigalrm = .alrm)
    (handled : (p.details i).syncSigHandler.isSome = true)
    (useAlarm : (p.details i).useAlarm = true) (unchanged : .changed i ∉ acts)
    (untouched : .retimed ∉ acts) : Timed i q acts := by
  induction run with
  | nil => exact fun h => absurd h (by rw [hp.pending]; exact Bool.false_ne_true)
  | snoc run event h ih =>
      have hchanged : Act.changed i ∉ _ := fun hmem => unchanged (List.mem_append_left _ hmem)
      have hretimed : Act.retimed ∉ _ := fun hmem => untouched (List.mem_append_left _ hmem)
      obtain ⟨hhandler, halarm⟩ := run.installed hchanged
      refine (change_of_step h).timed (run.alrm alrm hretimed) ?_ ?_ ?_ (ih hchanged hretimed)
      · rw [hhandler]
        exact handled
      · rw [halarm]
        exact useAlarm
      · exact fun hmem => untouched (List.mem_append_right _ hmem)

/-- While a signal that uses the timer is pending and code is running, the timer runs, unless it
was stopped for another signal after this one came. -/
theorem alarm_whilePending (hp : Fresh p) (run : Run p acts q)
    (alrm : p.disposition sigalrm = .alrm)
    (handled : (p.details i).syncSigHandler.isSome = true)
    (useAlarm : (p.details i).useAlarm = true) (unchanged : .changed i ∉ acts)
    (untouched : .retimed ∉ acts) (inCode : q.inCode = true)
    (pending : (q.details i).pending = true) :
    q.armed = true ∨
      Since (fun act => ∃ j, j ≠ i ∧ act = .disarmed j) (· = .accepted i) acts := by
  rcases run.timed hp alrm handled useAlarm unchanged untouched pending with
    harmed | hstopped | ⟨rest, hrest⟩
  · exact .inl harmed
  · exact .inr hstopped
  · rcases hrest with hrest | hrest
    · cases phase_of_inCode inCode hrest
    · cases phase_of_inCode inCode hrest

/-- The listener waits for the next connection, with SIGHUP pending and the timer stopped. -/
theorem alarm_whilePending_listener :
    checked.1.armed = false ∧ (checked.1.details 1).pending = true ∧
      (checked.1.armed = true ∨
        Since (fun act => ∃ j, j ≠ 1 ∧ act = .disarmed j) (· = .accepted 1) checked.2) := by
  have hpending : (checked.1.details 1).pending = true := by decide +kernel
  refine ⟨by decide +kernel, hpending, ?_⟩
  exact alarm_whilePending listener_fresh listener_checked rfl rfl rfl (by decide +kernel)
    (by decide +kernel) (by decide +kernel) hpending

end Vsftpd.Signals
