import Vsftpd.Signals.Handling

/-!
# The next check

A signal that came before the main program asked what is pending is handled when it is back from
that call.
-/

namespace Vsftpd.Signals

open Vsftpd.Lib

variable {H : Type} {p q : Process H} {acts more : List Act} {i : Nat}

theorem update_installed {t : Nat → SigDetails H} {d : SigDetails H} {j : Nat}
    (hd : i = j → d.syncSigHandler = (t j).syncSigHandler ∧ d.useAlarm = (t j).useAlarm) :
    (Function.update t j d i).syncSigHandler = (t i).syncSigHandler ∧
      (Function.update t j d i).useAlarm = (t i).useAlarm := by
  by_cases hij : i = j
  · rw [hij, Function.update_self]
    exact hd hij
  · rw [Function.update_of_ne hij]
    exact ⟨rfl, rfl⟩

/-- The handler of a signal, and its use of the timer, are as they were unless that is noted. -/
theorem Change.installed (h : Change p q more) (hi : .changed i ∉ more) :
    (q.details i).syncSigHandler = (p.details i).syncSigHandler ∧
      (q.details i).useAlarm = (p.details i).useAlarm := by
  cases h with
  | noted j armed handled set kept => exact update_installed fun _ => ⟨rfl, rfl⟩
  | run top => exact update_installed fun _ => ⟨rfl, rfl⟩
  | take top => exact update_installed fun _ => ⟨rfl, rfl⟩
  | leave top => exact update_installed fun _ => ⟨rfl, rfl⟩
  | @assign a todo rest top =>
      cases a with
      | syncSigHandler sig handler =>
          refine update_installed fun hsig => absurd ?_ hi
          rw [hsig]
          exact List.mem_singleton.mpr rfl
      | useAlarm sig useAlarm =>
          refine update_installed fun hsig => absurd ?_ hi
          rw [hsig]
          exact List.mem_singleton.mpr rfl
      | notPending sig => exact update_installed fun _ => ⟨rfl, rfl⟩
      | noIoHandler => exact ⟨rfl, rfl⟩
      | disposition sig disposition => exact ⟨rfl, rfl⟩
  | _ => exact ⟨rfl, rfl⟩

theorem Run.installed (run : Run p acts q) (hi : .changed i ∉ acts) :
    (q.details i).syncSigHandler = (p.details i).syncSigHandler ∧
      (q.details i).useAlarm = (p.details i).useAlarm := by
  induction run with
  | nil => exact ⟨rfl, rfl⟩
  | snoc run event h ih =>
      have hfirst := ih fun hmem => hi (List.mem_append_left _ hmem)
      have hlast := (change_of_step h).installed fun hmem => hi (List.mem_append_right _ hmem)
      exact ⟨hlast.1.trans hfirst.1, hlast.2.trans hfirst.2⟩

/-- The check that the main program has made is still to come to the signal. -/
def Frame.ahead (i : Nat) : Frame H → Bool
  | .io _ _ => true
  | .sig phase j => j < i || (i = j && (phase = .test || phase.marked))
  | .assign _ => false

/-- A signal that is pending came since the main program last asked, or the check is still to
come to it. -/
def Noticed (i : Nat) (p : Process H) (acts : List Act) : Prop :=
  (p.details i).pending = true → Since (· = .accepted i) (· = .began) acts ∨
    ∃ frame ∈ p.frames.getLast?, frame.ahead i = true

theorem since_quiet (h : .accepted i ∉ more ∧ .began ∉ more) :
    Since (· = .accepted i) (· = .began) (acts ++ more) ↔
      Since (· = .accepted i) (· = .began) acts := by
  refine since_append fun act hact => ⟨?_, ?_⟩
  · rintro rfl
    exact h.1 hact
  · rintro rfl
    exact h.2 hact

theorem Noticed.go (hp : Noticed i p acts) (quiet : .accepted i ∉ more ∧ .began ∉ more)
    (pending : (q.details i).pending = true → (p.details i).pending = true)
    (ahead : (q.details i).pending = true → (∃ frame ∈ p.frames.getLast?, frame.ahead i = true) →
      ∃ frame ∈ q.frames.getLast?, frame.ahead i = true) : Noticed i q (acts ++ more) := by
  intro hq
  rw [since_quiet quiet]
  rcases hp (pending hq) with hsince | hahead
  · exact .inl hsince
  · exact .inr (ahead hq hahead)

theorem Noticed.advance (hp : Noticed i p acts) {frame next : Frame H} {rest : List (Frame H)}
    (top : p.frames = frame :: rest) (frames : q.frames = next :: rest)
    (quiet : .accepted i ∉ more ∧ .began ∉ more)
    (pending : (q.details i).pending = true → (p.details i).pending = true)
    (ahead : rest = [] → (q.details i).pending = true → frame.ahead i = true →
      next.ahead i = true) : Noticed i q (acts ++ more) := by
  refine hp.go quiet pending fun hq hframe => ?_
  rw [top] at hframe
  rw [frames]
  cases rest with
  | nil =>
      obtain ⟨f, hf, hahead⟩ := hframe
      cases hf
      exact ⟨next, rfl, ahead rfl hq hahead⟩
  | cons f rest =>
      rw [List.getLast?_cons_cons] at hframe
      rw [List.getLast?_cons_cons]
      exact hframe

/-- The latest call is over. -/
theorem Noticed.pop (hp : Noticed i p acts) {frame : Frame H} (top : p.frames = frame :: q.frames)
    (details : q.details = p.details) (passed : frame.ahead i = false) :
    Noticed i q (acts ++ []) := by
  refine hp.go ⟨List.not_mem_nil, List.not_mem_nil⟩ ?_ fun _ hframe => ?_
  · rw [details]
    exact id
  · rw [top] at hframe
    cases hrest : q.frames with
    | nil =>
        rw [hrest] at hframe
        obtain ⟨f, hf, hahead⟩ := hframe
        cases hf
        have hover : frame.ahead i = true := hahead
        rw [passed] at hover
        cases hover
    | cons f rest =>
        rw [hrest, List.getLast?_cons_cons] at hframe
        exact hframe

/-- Another call is made, by the main program or by a handler. -/
theorem Noticed.push (hp : Noticed i p acts) {frame : Frame H}
    (frames : q.frames = frame :: p.frames) (details : q.details = p.details)
    (quiet : .accepted i ∉ more ∧ .began ∉ more) :
    Noticed i q (acts ++ more) := by
  refine hp.go quiet ?_ fun _ hframe => ?_
  · rw [details]
    exact id
  · rw [frames]
    cases hrest : p.frames with
    | nil =>
        rw [hrest] at hframe
        obtain ⟨f, hf, -⟩ := hframe
        cases hf
    | cons f rest =>
        rw [hrest] at hframe
        rw [List.getLast?_cons_cons]
        exact hframe

theorem quiet_nil : .accepted i ∉ ([] : List Act) ∧ .began ∉ ([] : List Act) :=
  ⟨List.not_mem_nil, List.not_mem_nil⟩

theorem pending_of_update {t : Nat → SigDetails H} {d : SigDetails H} {j : Nat}
    (hd : d.pending = true → (t j).pending = true)
    (h : (Function.update t j d i).pending = true) : (t i).pending = true := by
  by_cases hij : i = j
  · rw [hij, Function.update_self] at h
    rw [hij]
    exact hd h
  · rw [Function.update_of_ne hij] at h
    exact h

/-- At the bottom, no other call runs the handler. -/
theorem Nested.free (hn : Nested p) {frame : Frame H} (top : p.frames = [frame])
    (hframe : frame.busyAt i = false) : (p.details i).running = false := by
  have hcount := hn.running i
  rw [top, List.countP_singleton, hframe] at hcount
  by_contra hrunning
  rw [Bool.not_eq_false] at hrunning
  rw [hrunning] at hcount
  cases hcount

theorem Change.noticed (h : Change p q more) (hn : Nested p) (hi : i < nsig)
    (handled : (p.details i).syncSigHandler.isSome = true) (hp : Noticed i p acts) :
    Noticed i q (acts ++ more) := by
  cases h with
  | ignored armed kept => exact hp.go quiet_nil id fun _ => id
  | noted j armed handled set kept =>
      by_cases hij : i = j
      · subst hij
        exact fun _ => .inl (since_concat.mpr (.inl rfl))
      · refine hp.go ⟨by simp [hij], by simp⟩ ?_ fun _ => id
        exact fun h => (update_pending fun hji => absurd hji hij).symm.trans h
  | check context inCode =>
      by_cases hframes : p.frames = []
      · refine fun _ => .inr ⟨.io .test context, ?_, rfl⟩
        show Frame.io .test context ∈ (Frame.io .test context :: p.frames).getLast?
        rw [hframes]
        rfl
      · rw [if_neg hframes]
        exact hp.push rfl rfl quiet_nil
  | assigns todo inCode => exact hp.push rfl rfl quiet_nil
  | forks todo inCode => exact hp.push rfl rfl (by simp)
  | alarm armed => exact hp.go (by simp) id fun _ => id
  | ioHandler handler inCode => exact hp.go quiet_nil id fun _ => id
  | ioSkip top =>
      refine hp.advance top rfl quiet_nil id fun _ _ _ => ?_
      simp [Frame.ahead]
      omega
  | ioEnter top handled free => exact hp.advance top rfl quiet_nil id fun _ _ _ => rfl
  | ioCall top => exact hp.advance top rfl quiet_nil id fun _ _ _ => rfl
  | ioReturn top => exact hp.advance top rfl quiet_nil id fun _ _ _ => rfl
  | ioLeave top =>
      refine hp.advance top rfl quiet_nil id fun _ _ _ => ?_
      simp [Frame.ahead]
      omega
  | done top last =>
      refine hp.pop top rfl ?_
      simp [Frame.ahead]
      omega
  | @skip j rest top inside passed =>
      refine hp.advance top rfl quiet_nil id fun hrest hq hahead => ?_
      have hne : i ≠ j := by
        rintro rfl
        rcases passed with hpassed | hpassed
        · exact absurd hq (by rw [hpassed]; decide)
        · subst hrest
          rw [hn.free top rfl] at hpassed
          cases hpassed
      simp [Frame.ahead, Phase.marked] at hahead ⊢
      omega
  | enter top pending free =>
      refine hp.advance top rfl quiet_nil id fun _ _ hahead => ?_
      simpa [Frame.ahead, Phase.marked] using hahead
  | run top =>
      refine hp.advance top rfl quiet_nil (pending_of_update id) fun _ _ hahead => ?_
      simpa [Frame.ahead, Phase.marked] using hahead
  | disarm top =>
      refine hp.advance top rfl (by simp) id fun _ _ hahead => ?_
      simpa [Frame.ahead, Phase.marked] using hahead
  | keep top =>
      refine hp.advance top rfl quiet_nil id fun _ _ hahead => ?_
      simpa [Frame.ahead, Phase.marked] using hahead
  | look top _ =>
      refine hp.advance top rfl quiet_nil id fun _ _ hahead => ?_
      simpa [Frame.ahead, Phase.marked] using hahead
  | @lookAway j rest top unhandled =>
      refine hp.advance top rfl quiet_nil id fun _ _ hahead => ?_
      have hne : i ≠ j := by
        rintro rfl
        rw [handled] at unhandled
        cases unhandled
      simp [Frame.ahead, Phase.marked] at hahead ⊢
      omega
  | @take j rest top =>
      refine hp.advance top rfl (by simp) (pending_of_update fun h => by cases h)
        fun _ hq hahead => ?_
      have hne : i ≠ j := by
        rintro rfl
        cases (update_self_pending p.details _ i).symm.trans hq
      simp [Frame.ahead, Phase.marked] at hahead ⊢
      omega
  | call top =>
      refine hp.advance top rfl (by simp) id fun _ _ hahead => ?_
      simpa [Frame.ahead, Phase.marked] using hahead
  | returns top =>
      refine hp.advance top rfl quiet_nil id fun _ _ hahead => ?_
      simpa [Frame.ahead, Phase.marked] using hahead
  | leave top =>
      refine hp.advance top rfl quiet_nil (pending_of_update id) fun _ _ hahead => ?_
      simp [Frame.ahead, Phase.marked] at hahead ⊢
      omega
  | @assign a todo rest top =>
      refine hp.advance top rfl ?_ ?_ fun _ _ hahead => by cases hahead
      · cases a with
        | disposition sig disposition =>
            unfold Signals.assign
            dsimp only
            split <;> simp
        | _ => simp [Signals.assign]
      · cases a with
        | notPending sig => exact pending_of_update fun h => by cases h
        | syncSigHandler sig handler => exact pending_of_update id
        | useAlarm sig useAlarm => exact pending_of_update id
        | noIoHandler => exact id
        | disposition sig disposition => exact id
  | assigned top => exact hp.pop top rfl rfl

theorem Run.trans {r : Process H} (run : Run p acts q) (after : Run q more r) :
    Run p (acts ++ more) r := by
  induction after with
  | nil =>
      rw [List.append_nil]
      exact run
  | snoc after event h ih =>
      rw [← List.append_assoc]
      exact ih.snoc event h

theorem Run.noticed {before : List Act} (run : Run p acts q) (hn : Nested p) (hi : i < nsig)
    (handled : (p.details i).syncSigHandler.isSome = true) (unchanged : .changed i ∉ acts)
    (hp : Noticed i p before) : Noticed i q (before ++ acts) := by
  induction run with
  | nil =>
      rw [List.append_nil]
      exact hp
  | snoc run event h ih =>
      have hbefore : Act.changed i ∉ _ := fun hmem => unchanged (List.mem_append_left _ hmem)
      rw [← List.append_assoc]
      refine (change_of_step h).noticed (run.nested hn) hi ?_ (ih hbefore)
      rw [(run.installed hbefore).1]
      exact handled

/-- A signal that comes is all that is noted. -/
theorem Change.accepts (h : Change p q more) (came : .accepted i ∈ more) :
    more = [.accepted i] := by
  cases h with
  | noted j armed handled set kept => rw [List.mem_singleton.mp came]
  | check context inCode =>
      split at came
      · cases List.mem_singleton.mp came
      · cases came
  | @assign a todo rest top =>
      cases a with
      | disposition sig disposition =>
          unfold Signals.assign at came
          dsimp only at came
          split at came
          · cases List.mem_singleton.mp came
          · cases came
      | noIoHandler => cases came
      | _ => cases List.mem_singleton.mp came
  | forks todo inCode => cases List.mem_singleton.mp came
  | alarm armed => cases List.mem_singleton.mp came
  | disarm top => cases List.mem_singleton.mp came
  | take top => cases List.mem_singleton.mp came
  | call top => cases List.mem_singleton.mp came
  | _ => cases came

/-- From when the signal comes on. -/
theorem Run.noticed_of_came {before : List Act} (run : Run p acts q) (hn : Nested p) (hi : i < nsig)
    (handled : (p.details i).syncSigHandler.isSome = true) (unchanged : .changed i ∉ acts)
    (came : .accepted i ∈ acts) : Noticed i q (before ++ acts) := by
  induction run with
  | nil => exact absurd came List.not_mem_nil
  | snoc run event h ih =>
      have hbefore : Act.changed i ∉ _ := fun hmem => unchanged (List.mem_append_left _ hmem)
      rw [← List.append_assoc]
      rcases List.mem_append.mp came with hcame | hcame
      · refine (change_of_step h).noticed (run.nested hn) hi ?_ (ih hbefore hcame)
        rw [(run.installed hbefore).1]
        exact handled
      · rw [(change_of_step h).accepts hcame]
        exact fun _ => .inl (since_concat.mpr (.inl rfl))

/-- A signal that came for a handler, which stays installed, is pending, about to be handled, or
was handled or forgotten since.  Once the main program is back from a check, it was handled or
forgotten since, or it came after that check had begun. -/
theorem signals_notLost (hp : Fresh p) (run : Run p acts q) (hi : i < nsig)
    (handled : (q.details i).syncSigHandler.isSome = true) {r : Process H} (after : Run q more r)
    (unchanged : .changed i ∉ more) (came : .accepted i ∈ more) :
    ((r.details i).pending = true ∨ r.calling i = true ∨
      Since (fun act => act = .started i ∨ act = .dropped i) (· = .accepted i) (acts ++ more)) ∧
    (r.frames = [] →
      Since (fun act => act = .started i ∨ act = .dropped i) (· = .accepted i) (acts ++ more) ∨
        Since (· = .accepted i) (· = .began) (acts ++ more)) := by
  have hkept := (run.trans after).kept hp.nested i (List.mem_append_right acts came)
  refine ⟨hkept, fun hframes => ?_⟩
  rcases hkept with hpending | hcalling | hsince
  · have hnoticed : Noticed i r (acts ++ more) :=
      after.noticed_of_came (run.nested hp.nested) hi handled unchanged came
    rcases hnoticed hpending with hcame | ⟨frame, hframe, -⟩
    · exact .inr hcame
    · rw [hframes] at hframe
      cases hframe
  · unfold Process.calling at hcalling
    rw [hframes] at hcalling
    cases hcalling
  · exact .inl hsince

theorem signals_notLost_listener :
    checked.1.frames = [] ∧
      (Since (fun act => act = .started 17 ∨ act = .dropped 17) (· = .accepted 17) checked.2 ∨
        Since (· = .accepted 17) (· = .began) checked.2) := by
  have hframes : checked.1.frames = [] := by decide +kernel
  exact ⟨hframes, (signals_notLost (i := 17) listener_fresh (Run.nil listener) (by decide) rfl
    listener_checked (by decide +kernel) (by decide +kernel)).2 hframes⟩

end Vsftpd.Signals
