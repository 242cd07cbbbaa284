import Mathlib.Data.List.Count
import Vsftpd.Signals.Interleavings

/-!
# Handlers

For every run, from a process that handles no signal yet: handlers are not entered twice, they
are called only for signals that came, and no signal is lost.
-/

namespace Vsftpd.Signals

open Vsftpd.Lib

variable {H : Type} {p q : Process H} {acts more : List Act} {i : Nat}

/-- No call is under way, and nothing has come yet. -/
structure Fresh (p : Process H) : Prop where
  frames : p.frames = []
  pending : ∀ i, (p.details i).pending = false
  running : ∀ i, (p.details i).running = false
  io : p.ioRunning = false

theorem Fresh.nested (hp : Fresh p) : Nested p where
  below := by
    rw [hp.frames]
    intro frame hframe
    cases hframe
  running := by
    intro i
    rw [hp.frames, hp.running]
    rfl
  entering := by
    intro i rest _
    exact hp.running i
  io := by
    rw [hp.frames, hp.io]
    rfl
  ioEntering := by
    intro context rest _
    exact hp.io
  handled := by
    intro i rest h
    rw [hp.frames] at h
    rcases h with h | h
    · cases h
    · cases h

theorem Run.nested (run : Run p acts q) (hp : Nested p) : Nested q := by
  induction run with
  | nil => exact hp
  | snoc run event h ih => exact (change_of_step h).nested ih

/-! ## Handlers are called for signals that came -/

/-- The loop has seen that the signal is pending, and not taken it yet. -/
def Phase.marked : Phase → Bool
  | .enter | .disarm | .look | .take => true
  | _ => false

def Marked (p : Process H) : Prop :=
  ∀ phase i rest, p.frames = .sig phase i :: rest → phase.marked = true →
    (p.details i).pending = true

theorem marked_of_top (rest : List (Frame H)) {frame : Frame H} (top : p.frames = frame :: rest)
    (h : ∀ phase i, frame = .sig phase i → phase.marked = true → (p.details i).pending = true) :
    Marked p := by
  intro phase i rest' hframes hmarked
  rw [top] at hframes
  exact h phase i (List.cons.inj hframes).1 hmarked

theorem Marked.same (hp : Marked p) (frames : q.frames = p.frames)
    (pending : ∀ i, (p.details i).pending = true → (q.details i).pending = true) : Marked q := by
  intro phase i rest hframes hmarked
  exact pending i (hp phase i rest (frames ▸ hframes) hmarked)

theorem Nested.marked_pop (hp : Nested p) {frame : Frame H} (top : p.frames = frame :: q.frames) :
    Marked q := by
  intro phase i rest hframes hmarked
  have hbelow := hp.below
  rw [top, List.tail_cons] at hbelow
  have hinside := hbelow _ (hframes ▸ List.mem_cons_self)
  cases phase with
  | inside => cases hmarked
  | _ => cases hinside

theorem Marked.advance (hp : Marked p) {phase next : Phase} {rest : List (Frame H)}
    (top : p.frames = .sig phase i :: rest) (frames : q.frames = .sig next i :: rest)
    (marked : phase.marked = true) (pending : (q.details i).pending = (p.details i).pending) :
    Marked q := by
  refine marked_of_top rest frames fun phase' j h _ => ?_
  cases h
  rw [pending]
  exact hp phase i rest top marked

theorem Change.marked (h : Change p q acts) (hn : Nested p) (hp : Marked p) : Marked q := by
  cases h with
  | ignored armed kept => exact hp.same rfl fun _ h => h
  | noted j armed handled set kept =>
      refine hp.same rfl fun k hk => ?_
      show (Function.update p.details j _ k).pending = true
      by_cases hkj : k = j
      · rw [hkj, Function.update_self]
      · rw [Function.update_of_ne hkj]
        exact hk
  | check context inCode => exact marked_of_top p.frames rfl (by simp)
  | assigns todo inCode => exact marked_of_top p.frames rfl (by simp)
  | forks todo inCode => exact marked_of_top p.frames rfl (by simp)
  | alarm armed => exact hp.same rfl fun _ h => h
  | ioHandler handler inCode => exact hp.same rfl fun _ h => h
  | @ioSkip context rest top => exact marked_of_top rest rfl (by simp [Phase.marked])
  | @ioEnter context rest top handled free => exact marked_of_top rest rfl (by simp)
  | @ioCall context rest top => exact marked_of_top rest rfl (by simp)
  | @ioReturn context rest top => exact marked_of_top rest rfl (by simp)
  | @ioLeave context rest top => exact marked_of_top rest rfl (by simp [Phase.marked])
  | done top last => exact hn.marked_pop top
  | @skip j rest top inside passed => exact marked_of_top rest rfl (by simp [Phase.marked])
  | @enter j rest top pending free =>
      refine marked_of_top rest rfl fun phase k h _ => ?_
      cases h
      exact pending
  | @run j rest top =>
      refine hp.advance top rfl rfl ?_
      exact update_pending fun _ => rfl
  | disarm top => exact hp.advance top rfl rfl rfl
  | keep top => exact hp.advance top rfl rfl rfl
  | look top handled => exact hp.advance top rfl rfl rfl
  | lookAway top unhandled => exact hp.advance top rfl rfl rfl
  | @take j rest top => exact marked_of_top rest rfl (by simp [Phase.marked])
  | @call j rest top => exact marked_of_top rest rfl (by simp [Phase.marked])
  | @returns j rest top => exact marked_of_top rest rfl (by simp [Phase.marked])
  | @leave j rest top => exact marked_of_top rest rfl (by simp [Phase.marked])
  | @assign a todo rest top => exact marked_of_top rest rfl (by simp)
  | assigned top => exact hn.marked_pop top

theorem Fresh.marked (hp : Fresh p) : Marked p := by
  intro phase i rest hframes
  rw [hp.frames] at hframes
  cases hframes

theorem Run.marked (run : Run p acts q) (hn : Nested p) (hp : Marked p) : Marked q := by
  induction run with
  | nil => exact hp
  | snoc run event h ih => exact (change_of_step h).marked (run.nested hn) ih

/-- Signals that were noted and not yet handled. -/
def Process.owed (p : Process H) (i : Nat) : Nat :=
  (p.details i).pending.toNat + (p.calling i).toNat

theorem Concerns.count (h : Concerns i p q more) (hp : Marked p) :
    more.count (.started i) + q.owed i ≤ p.owed i + more.count (.accepted i) := by
  unfold Process.owed
  cases h with
  | aside none pending calling =>
      rw [List.count_eq_zero_of_not_mem none.2.2.1, pending, calling]
      omega
  | noted pending calling =>
      rw [pending, calling]
      simp
      omega
  | taken top pending calling =>
      obtain ⟨rest, top⟩ := top
      rw [pending, calling, hp _ i rest top rfl]
      simp
  | called was pending calling =>
      rw [pending, calling, was]
      simp
      omega
  | dropped pending calling =>
      rw [pending, calling]
      simp

/-- Every call of a handler takes a signal of its own. -/
theorem Run.count (run : Run p acts q) (hn : Nested p) (hm : Marked p) (i : Nat) :
    acts.count (.started i) + q.owed i ≤ p.owed i + acts.count (.accepted i) := by
  induction run with
  | nil => simp
  | snoc run event h ih =>
      have hnested := run.nested hn
      have hlast := ((change_of_step h).concerns hnested i).count (run.marked hn hm)
      rw [List.count_append, List.count_append]
      omega

/-! ## No signal is lost -/

theorem since_aside (h : Aside i more) :
    Since (fun act => act = .started i ∨ act = .dropped i) (· = .accepted i) (acts ++ more) ↔
      Since (fun act => act = .started i ∨ act = .dropped i) (· = .accepted i) acts := by
  refine since_append fun act hact => ⟨?_, ?_⟩
  · rintro (rfl | rfl)
    · exact h.2.2.1 hact
    · exact h.2.2.2 hact
  · rintro rfl
    exact h.1 hact

/-- The signal is still noted, or its handler was called or the child forgot it since. -/
def Kept (i : Nat) (p : Process H) (acts : List Act) : Prop :=
  .accepted i ∈ acts → (p.details i).pending = true ∨ p.calling i = true ∨
    Since (fun act => act = .started i ∨ act = .dropped i) (· = .accepted i) acts

theorem Concerns.kept (h : Concerns i p q more) (hp : Kept i p acts) : Kept i q (acts ++ more) := by
  intro haccepted
  cases h with
  | aside none pending calling =>
      rw [pending, calling, since_aside none]
      exact hp ((List.mem_append.mp haccepted).resolve_right none.1)
  | noted pending calling => exact .inl pending
  | taken top pending calling => exact .inr (.inl calling)
  | called was pending calling => exact .inr (.inr (since_concat.mpr (.inl (.inl rfl))))
  | dropped pending calling => exact .inr (.inr (since_concat.mpr (.inl (.inr rfl))))

theorem Run.kept (run : Run p acts q) (hn : Nested p) (i : Nat) : Kept i q acts := by
  induction run with
  | nil => exact fun h => absurd h List.not_mem_nil
  | snoc run event h ih => exact ((change_of_step h).concerns (run.nested hn) i).kept ih

/-! ## Every run -/

/-- The handler of the signal is running in the call. -/
def Frame.runs (i : Nat) : Frame H → Bool
  | .sig .inside j => i = j
  | _ => false

def Frame.runsIo : Frame H → Bool
  | .io .inside _ => true
  | _ => false

theorem Frame.busyAt_of_runs {frame : Frame H} (h : frame.runs i = true) :
    frame.busyAt i = true := by
  cases frame with
  | io phase context => cases h
  | sig phase j =>
      cases phase with
      | inside => exact h
      | _ => cases h
  | assign todo => cases h

theorem Frame.ioBusy_of_runsIo {frame : Frame H} (h : frame.runsIo = true) :
    frame.ioBusy = true := by
  cases frame with
  | io phase context =>
      cases phase with
      | inside => rfl
      | _ => cases h
  | sig phase j => cases h
  | assign todo => cases h

theorem Nested.handled_of_calling (hn : Nested p) (h : p.calling i = true) :
    (p.details i).syncSigHandler.isSome = true := by
  unfold Process.calling at h
  split at h
  · rename_i j rest top
    rw [of_decide_eq_true h]
    exact hn.handled j rest (.inr top)
  · cases h

/-- The i/o handler is about to be called. -/
def Process.callingIo (p : Process H) : Bool :=
  match p.frames with
  | .io .enter _ :: _ => true
  | _ => false

def IoReady (p : Process H) : Prop := p.callingIo = true → p.ioHandler.isSome = true

theorem ioReady_of_top {frame : Frame H} {rest : List (Frame H)} (top : p.frames = frame :: rest)
    (h : ∀ context, frame ≠ .io .enter context) : IoReady p := by
  intro hcalling
  unfold Process.callingIo at hcalling
  split at hcalling
  · rename_i context rest' hframes
    rw [top] at hframes
    exact absurd (List.cons.inj hframes).1 (h context)
  · cases hcalling

/-- Code that is running is not about to call the i/o handler. -/
theorem ioReady_of_inCode (h : ∀ frame ∈ p.frames.head?, frame.inHandler = true) : IoReady p := by
  cases hframes : p.frames with
  | nil =>
      intro hcalling
      unfold Process.callingIo at hcalling
      rw [hframes] at hcalling
      cases hcalling
  | cons frame rest =>
      refine ioReady_of_top hframes fun context heq => ?_
      have hinside := h frame (by rw [hframes]; rfl)
      rw [heq] at hinside
      cases hinside

theorem Nested.ioReady_pop (hp : Nested p) {frame : Frame H} (top : p.frames = frame :: q.frames) :
    IoReady q := by
  refine ioReady_of_inCode fun f hf => ?_
  have hbelow := hp.below
  rw [top, List.tail_cons] at hbelow
  exact hbelow f (List.mem_of_mem_head? hf)

theorem Change.ioReady (h : Change p q acts) (hn : Nested p) (hp : IoReady p) : IoReady q := by
  cases h with
  | ignored armed kept => exact hp
  | noted j armed handled set kept => exact hp
  | check context inCode => exact ioReady_of_top rfl (by simp)
  | assigns todo inCode => exact ioReady_of_top rfl (by simp)
  | forks todo inCode => exact ioReady_of_top rfl (by simp)
  | alarm armed => exact hp
  | ioHandler handler inCode => exact ioReady_of_inCode (inHandler_of_inCode inCode)
  | ioEnter top handled free => exact fun _ => handled
  | ioCall top => exact ioReady_of_top rfl (by simp)
  | ioReturn top => exact ioReady_of_top rfl (by simp)
  | done top last => exact hn.ioReady_pop top
  | @assign a todo rest top => exact ioReady_of_top rfl (by simp)
  | assigned top => exact hn.ioReady_pop top
  | _ => exact ioReady_of_top rfl (by simp)

theorem Run.ioReady (run : Run p acts q) (hn : Nested p) (hp : IoReady p) : IoReady q := by
  induction run with
  | nil => exact hp
  | snoc run event h ih => exact (change_of_step h).ioReady (run.nested hn) ih

theorem Fresh.ioReady (hp : Fresh p) : IoReady p := by
  refine ioReady_of_inCode fun frame hframe => ?_
  rw [hp.frames] at hframe
  cases hframe

/-- What some events do one after the other. -/
def runEvents : Process H × List Act → List (Event H) → Option (Process H × List Act)
  | r, [] => some r
  | (p, acts), event :: events =>
    match step p event with
    | none => none
    | some (q, more) => runEvents (q, acts ++ more) events

theorem Run.events {r : Process H × List Act} {events : List (Event H)} (run : Run p acts q)
    (h : runEvents (q, acts) events = some r) : Run p r.2 r.1 := by
  induction events generalizing q acts with
  | nil =>
      rw [← Option.some.inj h]
      exact run
  | cons event events ih =>
      cases hstep : step q event with
      | none =>
          rw [runEvents, hstep] at h
          cases h
      | some out =>
          rw [runEvents, hstep] at h
          exact ih (run.snoc event hstep) h

/-- The listener, with its handlers of SIGCHLD and SIGHUP. -/
def listener : Process Unit where
  details := fun i =>
    if i = vsfSysutilTranslateSig .chld ∨ i = vsfSysutilTranslateSig .hup then
      { syncSigHandler := some (), useAlarm := true }
    else {}
  disposition := fun i =>
    if i = sigalrm then .alrm
    else if i = vsfSysutilTranslateSig .chld ∨ i = vsfSysutilTranslateSig .hup then .common
    else .default

/-- A child ends, and when the check has passed the number of SIGHUP that comes too. -/
def childThenHup : List (Event Unit) :=
  [.deliver (vsfSysutilTranslateSig .chld), .check .io] ++ List.replicate 5 .advance ++
    [.deliver (vsfSysutilTranslateSig .hup)] ++ List.replicate 19 .advance ++ [.returns] ++
    List.replicate 49 .advance

def checked : Process Unit × List Act :=
  (runEvents (listener, []) childThenHup).getD (listener, [])

theorem listener_fresh : Fresh listener where
  frames := rfl
  pending := by
    intro i
    unfold listener
    dsimp only
    split <;> rfl
  running := by
    intro i
    unfold listener
    dsimp only
    split <;> rfl
  io := rfl

theorem listener_checked : Run listener checked.2 checked.1 := by
  have hsome : (runEvents (listener, []) childThenHup).isSome = true := by decide +kernel
  obtain ⟨r, hr⟩ := Option.isSome_iff_exists.mp hsome
  have hchecked : checked = r := by
    unfold checked
    rw [hr]
    rfl
  rw [hchecked]
  exact (Run.nil listener).events hr

/-- Whatever comes in whatever order, and whatever the handlers call: no handler is entered
while it runs, no handler and no i/o handler is called that is not there, and there are no more
calls of a handler than signals that came for it. -/
theorem handlers_notReentrant (hp : Fresh p) (run : Run p acts q) (i : Nat) :
    q.frames.countP (Frame.runs i) ≤ 1 ∧ q.frames.countP Frame.runsIo ≤ 1 ∧
      (q.calling i = true → (q.details i).syncSigHandler.isSome = true) ∧
      (q.callingIo = true → q.ioHandler.isSome = true) ∧
      acts.count (.started i) + q.owed i ≤ acts.count (.accepted i) := by
  have hn : Nested q := run.nested hp.nested
  refine ⟨?_, ?_, hn.handled_of_calling, run.ioReady hp.nested hp.ioReady, ?_⟩
  · have hmono : q.frames.countP (Frame.runs i) ≤ q.frames.countP (Frame.busyAt i) :=
      List.countP_mono_left fun _ _ => Frame.busyAt_of_runs
    have hcount := hn.running i
    split at hcount <;> omega
  · have hmono : q.frames.countP Frame.runsIo ≤ q.frames.countP Frame.ioBusy :=
      List.countP_mono_left fun _ _ => Frame.ioBusy_of_runsIo
    have hcount := hn.io
    split at hcount <;> omega
  · have hcount := run.count hp.nested hp.marked i
    have hnone : p.owed i = 0 := by
      unfold Process.owed Process.calling
      rw [hp.pending, hp.frames]
      rfl
    omega

theorem handlers_notReentrant_listener :
    checked.1.frames.countP (Frame.runs 17) ≤ 1 ∧ checked.2.count (.started 17) = 1 ∧
      checked.2.count (.started 17) + checked.1.owed 17 ≤ checked.2.count (.accepted 17) := by
  have hrun := handlers_notReentrant listener_fresh listener_checked 17
  exact ⟨hrun.1, by decide +kernel, hrun.2.2.2.2⟩

end Vsftpd.Signals
