import Vsftpd.Lib.Since
import Vsftpd.Signals.Framework

/-!
# Signals come at any time

Invariants of every run of the signal handling, whatever signals come between which of its
statements, and however the handlers call it again: a handler never runs twice at a time, and no
signal that was noted is lost.
-/

namespace Vsftpd.Signals

open Vsftpd.Lib

variable {H : Type} {p q r : Process H} {acts more : List Act} {i : Nat}

/-! ## What one event does -/

/-- The timer goes on, or goes off to be started again. -/
def Process.Ticks (p : Process H) : Prop := p.disposition sigalrm = .alrm ∧ p.armed = true

inductive Change (p : Process H) : Process H → List Act → Prop
  | ignored (armed : Bool) (kept : p.Ticks → armed = true) :
    Change p { p with armed := armed } []
  | noted (i : Nat) (armed : Bool) (handled : (p.details i).syncSigHandler.isSome = true)
    (set : (p.details i).useAlarm = true → armed = true) (kept : p.Ticks → armed = true) :
    Change p { p.setDetails i fun d => { d with pending := true } with armed := armed }
      [.accepted i]
  | check (context : Context) (inCode : p.inCode = true) :
    Change p { p with frames := .io .test context :: p.frames }
      (if p.frames = [] then [.began] else [])
  | assigns (todo : List (Assignment H)) (inCode : p.inCode = true) :
    Change p { p with frames := .assign todo :: p.frames } []
  | forks (todo : List (Assignment H)) (inCode : p.inCode = true) :
    Change p { p with armed := false, frames := .assign todo :: p.frames } [.retimed]
  | alarm (armed : Bool) : Change p { p with armed := armed } [.retimed]
  | ioHandler (handler : Option H) (inCode : p.inCode = true) :
    Change p { p with ioHandler := handler } []
  | ioSkip {context : Context} {rest : List (Frame H)}
    (top : p.frames = .io .test context :: rest) :
    Change p { p with frames := .sig .test 0 :: rest } []
  | ioEnter {context : Context} {rest : List (Frame H)}
    (top : p.frames = .io .test context :: rest) (handled : p.ioHandler.isSome = true)
    (free : p.ioRunning = false) : Change p { p with frames := .io .enter context :: rest } []
  | ioCall {context : Context} {rest : List (Frame H)}
    (top : p.frames = .io .enter context :: rest) :
    Change p { p with ioRunning := true, frames := .io .inside context :: rest } []
  | ioReturn {context : Context} {rest : List (Frame H)}
    (top : p.frames = .io .inside context :: rest) :
    Change p { p with frames := .io .leave context :: rest } []
  | ioLeave {context : Context} {rest : List (Frame H)}
    (top : p.frames = .io .leave context :: rest) :
    Change p { p with ioRunning := false, frames := .sig .test 0 :: rest } []
  | done {i : Nat} {rest : List (Frame H)} (top : p.frames = .sig .test i :: rest)
    (last : nsig ≤ i) : Change p { p with frames := rest } []
  | skip {i : Nat} {rest : List (Frame H)} (top : p.frames = .sig .test i :: rest)
    (inside : i < nsig) (passed : (p.details i).pending = false ∨ (p.details i).running = true) :
    Change p { p with frames := .sig .test (i + 1) :: rest } []
  | enter {i : Nat} {rest : List (Frame H)} (top : p.frames = .sig .test i :: rest)
    (pending : (p.details i).pending = true) (free : (p.details i).running = false) :
    Change p { p with frames := .sig .enter i :: rest } []
  | run {i : Nat} {rest : List (Frame H)} (top : p.frames = .sig .enter i :: rest) :
    Change p { p.setDetails i fun d => { d with running := true } with
      frames := .sig .disarm i :: rest } []
  | disarm {i : Nat} {rest : List (Frame H)} (top : p.frames = .sig .disarm i :: rest) :
    Change p { p with armed := false, frames := .sig .look i :: rest } [.disarmed i]
  | keep {i : Nat} {rest : List (Frame H)} (top : p.frames = .sig .disarm i :: rest) :
    Change p { p with frames := .sig .look i :: rest } []
  | look {i : Nat} {rest : List (Frame H)} (top : p.frames = .sig .look i :: rest)
    (handled : (p.details i).syncSigHandler.isSome = true) :
    Change p { p with frames := .sig .take i :: rest } []
  | lookAway {i : Nat} {rest : List (Frame H)} (top : p.frames = .sig .look i :: rest)
    (unhandled : (p.details i).syncSigHandler.isSome = false) :
    Change p { p with frames := .sig .leave i :: rest } []
  | take {i : Nat} {rest : List (Frame H)} (top : p.frames = .sig .take i :: rest) :
    Change p { p.setDetails i fun d => { d with pending := false } with
      frames := .sig .call i :: rest } [.taken i]
  | call {i : Nat} {rest : List (Frame H)} (top : p.frames = .sig .call i :: rest) :
    Change p { p with frames := .sig .inside i :: rest } [.started i]
  | returns {i : Nat} {rest : List (Frame H)} (top : p.frames = .sig .inside i :: rest) :
    Change p { p with frames := .sig .leave i :: rest } []
  | leave {i : Nat} {rest : List (Frame H)} (top : p.frames = .sig .leave i :: rest) :
    Change p { p.setDetails i fun d => { d with running := false } with
      frames := .sig .test (i + 1) :: rest } []
  | assign {a : Assignment H} {todo : List (Assignment H)} {rest : List (Frame H)}
    (top : p.frames = .assign (a :: todo) :: rest) :
    Change p { (Signals.assign p a).1 with frames := .assign todo :: rest } (Signals.assign p a).2
  | assigned {rest : List (Frame H)} (top : p.frames = .assign [] :: rest) :
    Change p { p with frames := rest } []

theorem change_of_common (signum : Nat) {armed : Bool} (kept : p.Ticks → armed = true) :
    Change p (vsfSysutilCommonSighandler { p with armed := armed } signum).1
      (vsfSysutilCommonSighandler { p with armed := armed } signum).2 := by
  unfold vsfSysutilCommonSighandler
  split
  · exact .ignored armed kept
  · split
    · rename_i handled
      dsimp only
      split
      · exact .noted signum true handled (fun _ => rfl) fun _ => rfl
      · rename_i alarm
        exact .noted signum armed handled (fun h => absurd h alarm) kept
    · exact .ignored armed kept

theorem change_of_deliver (signum : Nat) : Change p (deliver p signum).1 (deliver p signum).2 := by
  unfold deliver
  cases p.disposition signum with
  | default => exact .ignored p.armed fun h => h.2
  | common => exact change_of_common signum fun h => h.2
  | alrm => exact .ignored true fun _ => rfl

theorem change_of_expire :
    Change p (deliver { p with armed := false } sigalrm).1
      (deliver { p with armed := false } sigalrm).2 := by
  unfold deliver
  dsimp only
  cases hdisposition : p.disposition sigalrm with
  | default => exact .ignored false fun h => absurd (hdisposition.symm.trans h.1) (by decide)
  | common =>
      exact change_of_common sigalrm fun h => absurd (hdisposition.symm.trans h.1) (by decide)
  | alrm => exact .ignored true fun _ => rfl

theorem change_of_ioStep {context : Context} {rest : List (Frame H)} {phase : IoPhase}
    (top : p.frames = .io phase context :: rest)
    (h : ioStep p context rest phase = some (q, acts)) : Change p q acts := by
  cases phase with
  | test =>
      rw [ioStep] at h
      split at h
      · rename_i hfree
        obtain ⟨rfl, rfl⟩ := Prod.mk.inj (Option.some.inj h)
        simp only [Bool.and_eq_true, Bool.not_eq_true'] at hfree
        exact .ioEnter top hfree.1.1 hfree.1.2
      · obtain ⟨rfl, rfl⟩ := Prod.mk.inj (Option.some.inj h)
        exact .ioSkip top
  | enter =>
      obtain ⟨rfl, rfl⟩ := Prod.mk.inj (Option.some.inj h)
      exact .ioCall top
  | inside => cases h
  | leave =>
      obtain ⟨rfl, rfl⟩ := Prod.mk.inj (Option.some.inj h)
      exact .ioLeave top

theorem change_of_sigStep {rest : List (Frame H)} {phase : Phase}
    (top : p.frames = .sig phase i :: rest) (h : sigStep p i rest phase = some (q, acts)) :
    Change p q acts := by
  cases phase with
  | test =>
      rw [sigStep] at h
      split at h
      · rename_i hinside
        split at h
        · rename_i hpending
          obtain ⟨rfl, rfl⟩ := Prod.mk.inj (Option.some.inj h)
          simp only [Bool.and_eq_true, Bool.not_eq_true'] at hpending
          exact .enter top hpending.1 hpending.2
        · rename_i hpassed
          obtain ⟨rfl, rfl⟩ := Prod.mk.inj (Option.some.inj h)
          refine .skip top hinside ?_
          cases hp : (p.details i).pending with
          | false => exact .inl rfl
          | true => simpa [hp] using hpassed
      · rename_i hlast
        obtain ⟨rfl, rfl⟩ := Prod.mk.inj (Option.some.inj h)
        exact .done top (Nat.le_of_not_lt hlast)
  | enter =>
      obtain ⟨rfl, rfl⟩ := Prod.mk.inj (Option.some.inj h)
      exact .run top
  | disarm =>
      rw [sigStep] at h
      split at h
      · obtain ⟨rfl, rfl⟩ := Prod.mk.inj (Option.some.inj h)
        exact .disarm top
      · obtain ⟨rfl, rfl⟩ := Prod.mk.inj (Option.some.inj h)
        exact .keep top
  | look =>
      rw [sigStep] at h
      split at h
      · rename_i hhandled
        obtain ⟨rfl, rfl⟩ := Prod.mk.inj (Option.some.inj h)
        exact .look top hhandled
      · rename_i hunhandled
        obtain ⟨rfl, rfl⟩ := Prod.mk.inj (Option.some.inj h)
        exact .lookAway top (Bool.eq_false_iff.mpr hunhandled)
  | take =>
      obtain ⟨rfl, rfl⟩ := Prod.mk.inj (Option.some.inj h)
      exact .take top
  | call =>
      obtain ⟨rfl, rfl⟩ := Prod.mk.inj (Option.some.inj h)
      exact .call top
  | inside => cases h
  | leave =>
      obtain ⟨rfl, rfl⟩ := Prod.mk.inj (Option.some.inj h)
      exact .leave top

theorem change_of_advance (h : advance p = some (q, acts)) : Change p q acts := by
  unfold advance at h
  cases top : p.frames with
  | nil =>
      rw [top] at h
      cases h
  | cons frame rest =>
      rw [top] at h
      cases frame with
      | io phase context => exact change_of_ioStep top h
      | sig phase i => exact change_of_sigStep top h
      | assign todo =>
          cases todo with
          | nil =>
              obtain ⟨rfl, rfl⟩ := Prod.mk.inj (Option.some.inj h)
              exact .assigned top
          | cons a todo =>
              obtain ⟨rfl, rfl⟩ := Prod.mk.inj (Option.some.inj h)
              exact .assign top

theorem change_of_returns (h : handlerReturns p = some (q, acts)) : Change p q acts := by
  unfold handlerReturns at h
  split at h
  · rename_i top
    obtain ⟨rfl, rfl⟩ := Prod.mk.inj (Option.some.inj h)
    exact .ioReturn top
  · rename_i top
    obtain ⟨rfl, rfl⟩ := Prod.mk.inj (Option.some.inj h)
    exact .returns top
  · cases h

theorem ifInCode_eq_some {result : Option (Process H × List Act)}
    (h : ifInCode p result = some (q, acts)) : p.inCode = true ∧ result = some (q, acts) := by
  unfold ifInCode at h
  split at h
  · rename_i hcode
    exact ⟨hcode, h⟩
  · cases h

theorem change_of_step {event : Event H} (h : step p event = some (q, acts)) :
    Change p q acts := by
  have hcall {result : Process H × List Act} (h : ifInCode p (some result) = some (q, acts)) :
      p.inCode = true ∧ result = (q, acts) :=
    ⟨(ifInCode_eq_some h).1, Option.some.inj (ifInCode_eq_some h).2⟩
  cases event with
  | deliver signum =>
      obtain ⟨rfl, rfl⟩ := Prod.mk.inj (Option.some.inj h)
      exact change_of_deliver signum
  | expire =>
      rw [step] at h
      split at h
      · obtain ⟨rfl, rfl⟩ := Prod.mk.inj (Option.some.inj h)
        exact change_of_expire
      · cases h
  | advance => exact change_of_advance h
  | returns => exact change_of_returns h
  | check context =>
      obtain ⟨hcode, hresult⟩ := hcall h
      obtain ⟨rfl, rfl⟩ := Prod.mk.inj hresult
      exact .check context hcode
  | install sig handler useAlarm =>
      obtain ⟨hcode, hresult⟩ := hcall h
      obtain ⟨rfl, rfl⟩ := Prod.mk.inj hresult
      exact .assigns _ hcode
  | installNull sig =>
      obtain ⟨hcode, hresult⟩ := hcall h
      obtain ⟨rfl, rfl⟩ := Prod.mk.inj hresult
      exact .assigns _ hcode
  | defaultSig sig =>
      obtain ⟨hcode, hresult⟩ := hcall h
      obtain ⟨rfl, rfl⟩ := Prod.mk.inj hresult
      exact .assigns _ hcode
  | installIo handler =>
      obtain ⟨hcode, hresult⟩ := ifInCode_eq_some h
      unfold vsfSysutilInstallIoHandler at hresult
      split at hresult
      · cases hresult
      · obtain ⟨rfl, rfl⟩ := Prod.mk.inj (Option.some.inj hresult)
        exact .ioHandler _ hcode
  | uninstallIo =>
      obtain ⟨hcode, hresult⟩ := ifInCode_eq_some h
      unfold vsfSysutilUninstallIoHandler at hresult
      split at hresult
      · obtain ⟨rfl, rfl⟩ := Prod.mk.inj (Option.some.inj hresult)
        exact .ioHandler _ hcode
      · cases hresult
  | setAlarm triggerSeconds =>
      obtain ⟨-, hresult⟩ := hcall h
      obtain ⟨rfl, rfl⟩ := Prod.mk.inj hresult
      exact .alarm _
  | fork =>
      obtain ⟨hcode, hresult⟩ := hcall h
      obtain ⟨rfl, rfl⟩ := Prod.mk.inj hresult
      exact .forks _ hcode

/-! ## The calls that have not returned -/

/-- The code that a handler runs in. -/
def Frame.inHandler : Frame H → Bool
  | .io .inside _ => true
  | .sig .inside _ => true
  | _ => false

/-- `running` is set for the signal. -/
def Frame.busyAt (i : Nat) : Frame H → Bool
  | .sig .disarm j | .sig .look j | .sig .take j | .sig .call j | .sig .inside j
  | .sig .leave j => i = j
  | _ => false

def Frame.ioBusy : Frame H → Bool
  | .io .inside _ | .io .leave _ => true
  | _ => false

/-- Only the latest call is at work, and the `running` flags say which handlers are. -/
structure Nested (p : Process H) : Prop where
  below : ∀ frame ∈ p.frames.tail, frame.inHandler = true
  running : ∀ i, p.frames.countP (Frame.busyAt i) = if (p.details i).running then 1 else 0
  entering : ∀ i rest, p.frames = .sig .enter i :: rest → (p.details i).running = false
  io : p.frames.countP Frame.ioBusy = if p.ioRunning then 1 else 0
  ioEntering : ∀ context rest, p.frames = .io .enter context :: rest → p.ioRunning = false
  handled : ∀ i rest, p.frames = .sig .take i :: rest ∨ p.frames = .sig .call i :: rest →
    (p.details i).syncSigHandler.isSome = true

theorem inHandler_of_inCode (h : p.inCode = true) :
    ∀ frame ∈ p.frames.head?, frame.inHandler = true := by
  intro frame hframe
  unfold Process.inCode at h
  split at h
  · rename_i hnil
    rw [hnil] at hframe
    cases hframe
  · rename_i htop
    rw [htop] at hframe
    obtain rfl := Option.some.inj hframe
    rfl
  · rename_i htop
    rw [htop] at hframe
    obtain rfl := Option.some.inj hframe
    rfl
  · cases h

theorem update_running {t : Nat → SigDetails H} {d : SigDetails H} (j : Nat)
    (hd : d.running = (t i).running) :
    (Function.update t i d j).running = (t j).running := by
  by_cases h : j = i
  · rw [h, Function.update_self, hd]
  · rw [Function.update_of_ne h]

theorem update_handler {t : Nat → SigDetails H} {d : SigDetails H} (j : Nat)
    (hd : d.syncSigHandler = (t i).syncSigHandler) :
    (Function.update t i d j).syncSigHandler = (t j).syncSigHandler := by
  by_cases h : j = i
  · rw [h, Function.update_self, hd]
  · rw [Function.update_of_ne h]

/-- The calls go on as they are. -/
theorem Nested.same (hp : Nested p) (frames : q.frames = p.frames)
    (running : ∀ i, (q.details i).running = (p.details i).running)
    (handler : ∀ i, (q.details i).syncSigHandler = (p.details i).syncSigHandler)
    (io : q.ioRunning = p.ioRunning) : Nested q where
  below := by
    rw [frames]
    exact hp.below
  running := by
    intro i
    rw [frames, running]
    exact hp.running i
  entering := by
    intro i rest
    rw [frames, running]
    exact hp.entering i rest
  io := by
    rw [frames, io]
    exact hp.io
  ioEntering := by
    intro context rest
    rw [frames, io]
    exact hp.ioEntering context rest
  handled := by
    intro i rest
    rw [frames, handler]
    exact hp.handled i rest

/-- A frame that has not set a flag, and relies on none. -/
def Frame.idle : Frame H → Bool
  | .io .test _ | .assign _ => true
  | .sig .test _ => true
  | _ => false

theorem Frame.busyAt_of_idle {frame : Frame H} (h : frame.idle = true) (i : Nat) :
    frame.busyAt i = false := by
  cases frame with
  | io phase context => rfl
  | sig phase j => cases phase <;> first | rfl | cases h
  | assign todo => rfl

theorem Frame.ioBusy_of_idle {frame : Frame H} (h : frame.idle = true) : frame.ioBusy = false := by
  cases frame with
  | io phase context => cases phase <;> first | rfl | cases h
  | sig phase j => rfl
  | assign todo => rfl

/-- Code that is running makes a call. -/
theorem Nested.push (hp : Nested p) {frame : Frame H} (inCode : p.inCode = true)
    (frames : q.frames = frame :: p.frames) (idle : frame.idle = true)
    (details : q.details = p.details) (io : q.ioRunning = p.ioRunning) : Nested q where
  below := by
    rw [frames, List.tail_cons]
    intro f hf
    have hhead := inHandler_of_inCode inCode
    have htail := hp.below
    cases hframes : p.frames with
    | nil =>
        rw [hframes] at hf
        exact absurd hf List.not_mem_nil
    | cons g rest =>
        rw [hframes] at hf hhead htail
        rcases List.mem_cons.mp hf with rfl | hf
        · exact hhead f rfl
        · exact htail f hf
  running := by
    intro i
    rw [frames, details, List.countP_cons, Frame.busyAt_of_idle idle, hp.running i]
    exact Nat.add_zero _
  entering := by
    intro i rest h
    rw [frames] at h
    rw [(List.cons.inj h).1] at idle
    cases idle
  io := by
    rw [frames, io, List.countP_cons, Frame.ioBusy_of_idle idle, hp.io]
    exact Nat.add_zero _
  ioEntering := by
    intro context rest h
    rw [frames] at h
    rw [(List.cons.inj h).1] at idle
    cases idle
  handled := by
    rintro i rest (h | h)
    · rw [frames] at h
      rw [(List.cons.inj h).1] at idle
      cases idle
    · rw [frames] at h
      rw [(List.cons.inj h).1] at idle
      cases idle

/-- A call returns to the code that made it. -/
theorem Nested.pop (hp : Nested p) {frame : Frame H} (top : p.frames = frame :: q.frames)
    (idle : frame.idle = true) (details : q.details = p.details)
    (io : q.ioRunning = p.ioRunning) : Nested q := by
  have hbelow : ∀ f ∈ q.frames, f.inHandler = true := by
    have hp := hp.below
    rw [top] at hp
    exact hp
  have htop {f : Frame H} {rest : List (Frame H)} (h : q.frames = f :: rest) :
      f.inHandler = true :=
    hbelow f (by rw [h]; exact List.mem_cons_self)
  constructor
  · exact fun f hf => hbelow f (List.mem_of_mem_tail hf)
  · intro i
    have hrunning := hp.running i
    rw [top, List.countP_cons, Frame.busyAt_of_idle idle] at hrunning
    rw [details]
    exact hrunning
  · exact fun i rest h => Bool.noConfusion (htop h)
  · have hio := hp.io
    rw [top, List.countP_cons, Frame.ioBusy_of_idle idle] at hio
    rw [io]
    exact hio
  · exact fun context rest h => Bool.noConfusion (htop h)
  · rintro i rest (h | h)
    · exact Bool.noConfusion (htop h)
    · exact Bool.noConfusion (htop h)

/-- The latest call goes on. -/
theorem Nested.move (hp : Nested p) {frame next : Frame H} {rest : List (Frame H)}
    (top : p.frames = frame :: rest) (frames : q.frames = next :: rest)
    (running : ∀ i, (if next.busyAt i then 1 else 0) + (if (p.details i).running then 1 else 0) =
      (if frame.busyAt i then 1 else 0) + if (q.details i).running then 1 else 0)
    (io : (if next.ioBusy then 1 else 0) + (if p.ioRunning then 1 else 0) =
      (if frame.ioBusy then 1 else 0) + if q.ioRunning then 1 else 0)
    (entering : ∀ i, next = .sig .enter i → (q.details i).running = false)
    (ioEntering : ∀ context, next = .io .enter context → q.ioRunning = false)
    (handled : ∀ i, next = .sig .take i ∨ next = .sig .call i →
      (q.details i).syncSigHandler.isSome = true) : Nested q := by
  constructor
  · have hbelow := hp.below
    rw [top] at hbelow
    rw [frames]
    exact hbelow
  · intro i
    have hrunning := hp.running i
    have hnext := running i
    rw [top, List.countP_cons] at hrunning
    rw [frames, List.countP_cons]
    omega
  · intro i rest' h
    rw [frames] at h
    exact entering i (List.cons.inj h).1
  · have hio := hp.io
    rw [top, List.countP_cons] at hio
    rw [frames, List.countP_cons]
    omega
  · intro context rest' h
    rw [frames] at h
    exact ioEntering context (List.cons.inj h).1
  · rintro i rest' (h | h)
    · rw [frames] at h
      exact handled i (.inl (List.cons.inj h).1)
    · rw [frames] at h
      exact handled i (.inr (List.cons.inj h).1)

/-- The latest call goes on, and no flag changes. -/
theorem Nested.advance (hp : Nested p) {frame next : Frame H} {rest : List (Frame H)}
    (top : p.frames = frame :: rest) (frames : q.frames = next :: rest)
    (busy : ∀ i, next.busyAt i = frame.busyAt i) (ioBusy : next.ioBusy = frame.ioBusy)
    (running : ∀ i, (q.details i).running = (p.details i).running)
    (io : q.ioRunning = p.ioRunning)
    (entering : ∀ i, next = .sig .enter i → (p.details i).running = false)
    (ioEntering : ∀ context, next = .io .enter context → p.ioRunning = false)
    (handled : ∀ i, next = .sig .take i ∨ next = .sig .call i →
      (q.details i).syncSigHandler.isSome = true) : Nested q := by
  refine hp.move top frames (fun i => ?_) ?_ (fun i h => ?_) (fun context h => ?_) handled
  · rw [busy, running]
  · rw [ioBusy, io]
  · rw [running]
    exact entering i h
  · rw [io]
    exact ioEntering context h

/-- The next statement is one of those before which nothing need be known. -/
theorem Nested.plain (hp : Nested p) {frame next : Frame H} {rest : List (Frame H)}
    (top : p.frames = frame :: rest) (frames : q.frames = next :: rest)
    (busy : ∀ i, next.busyAt i = frame.busyAt i) (ioBusy : next.ioBusy = frame.ioBusy)
    (running : ∀ i, (q.details i).running = (p.details i).running)
    (io : q.ioRunning = p.ioRunning)
    (needless : ∀ i context, next ≠ .sig .enter i ∧ next ≠ .io .enter context ∧
      next ≠ .sig .take i ∧ next ≠ .sig .call i) : Nested q := by
  refine hp.advance top frames busy ioBusy running io (fun i h => ?_) (fun context h => ?_)
    fun i h => ?_
  · exact absurd h (needless i .io).1
  · exact absurd h (needless 0 context).2.1
  · rcases h with h | h
    · exact absurd h (needless i .io).2.2.1
    · exact absurd h (needless i .io).2.2.2

theorem Change.nested (h : Change p q acts) (hp : Nested p) : Nested q := by
  cases h with
  | ignored armed kept => exact hp.same rfl (fun _ => rfl) (fun _ => rfl) rfl
  | noted i armed handled set kept =>
      refine hp.same rfl (fun j => ?_) (fun j => ?_) rfl
      · exact update_running j (by rfl)
      · exact update_handler j (by rfl)
  | check context inCode => exact hp.push inCode rfl rfl rfl rfl
  | assigns todo inCode => exact hp.push inCode rfl rfl rfl rfl
  | forks todo inCode => exact hp.push inCode rfl rfl rfl rfl
  | alarm armed => exact hp.same rfl (fun _ => rfl) (fun _ => rfl) rfl
  | ioHandler handler inCode => exact hp.same rfl (fun _ => rfl) (fun _ => rfl) rfl
  | ioSkip top => exact hp.plain top rfl (fun _ => rfl) rfl (fun _ => rfl) rfl (by simp)
  | ioEnter top handled free =>
      refine hp.advance top rfl (fun _ => rfl) rfl (fun _ => rfl) rfl ?_ (fun _ _ => free) ?_
      · simp
      · simp
  | ioCall top =>
      have hfree := hp.ioEntering _ _ top
      refine hp.move top rfl (fun _ => rfl) ?_ (by simp) (by simp) (by simp)
      rw [hfree]
      rfl
  | ioReturn top => exact hp.plain top rfl (fun _ => rfl) rfl (fun _ => rfl) rfl (by simp)
  | ioLeave top =>
      have hrunning : p.ioRunning = true := by
        have hio := hp.io
        rw [top, List.countP_cons] at hio
        by_contra hfree
        rw [if_neg hfree] at hio
        exact absurd hio (Nat.succ_ne_zero _)
      refine hp.move top rfl (fun _ => rfl) ?_ (by simp) (by simp) (by simp)
      rw [hrunning]
      rfl
  | done top last => exact hp.pop top rfl rfl rfl
  | skip top inside passed =>
      exact hp.plain top rfl (fun _ => rfl) rfl (fun _ => rfl) rfl (by simp)
  | enter top pending free =>
      refine hp.advance top rfl (fun _ => rfl) rfl (fun _ => rfl) rfl ?_ (by simp) (by simp)
      rintro j h
      cases h
      exact free
  | @run i rest top =>
      have hfree := hp.entering i rest top
      refine hp.move top rfl (fun j => ?_) rfl (by simp) (by simp) (by simp)
      by_cases hj : j = i
      · subst hj
        simp [Frame.busyAt, Process.setDetails, hfree]
      · simp [Frame.busyAt, Process.setDetails, hj]
  | disarm top => exact hp.plain top rfl (fun _ => rfl) rfl (fun _ => rfl) rfl (by simp)
  | keep top => exact hp.plain top rfl (fun _ => rfl) rfl (fun _ => rfl) rfl (by simp)
  | look top handled =>
      refine hp.advance top rfl (fun _ => rfl) rfl (fun _ => rfl) rfl (by simp) (by simp) ?_
      rintro j (h | h)
      · cases h
        exact handled
      · cases h
  | lookAway top unhandled =>
      exact hp.plain top rfl (fun _ => rfl) rfl (fun _ => rfl) rfl (by simp)
  | @take i rest top =>
      have hhandled := hp.handled i rest (.inl top)
      refine hp.advance top rfl (fun _ => rfl) rfl (fun j => ?_) rfl (by simp) (by simp) ?_
      · exact update_running j (by rfl)
      · rintro j (h | h)
        · cases h
        · cases h
          rw [← hhandled]
          exact congrArg Option.isSome (update_handler i (by rfl))
  | call top => exact hp.plain top rfl (fun _ => rfl) rfl (fun _ => rfl) rfl (by simp)
  | returns top => exact hp.plain top rfl (fun _ => rfl) rfl (fun _ => rfl) rfl (by simp)
  | @leave i rest top =>
      have hrunning : (p.details i).running = true := by
        have hcount := hp.running i
        rw [top, List.countP_cons] at hcount
        by_contra hfree
        rw [if_neg hfree] at hcount
        simp [Frame.busyAt] at hcount
      refine hp.move top rfl (fun j => ?_) rfl (by simp) (by simp) (by simp)
      by_cases hj : j = i
      · subst hj
        simp [Frame.busyAt, Process.setDetails, hrunning]
      · simp [Frame.busyAt, Process.setDetails, hj]
  | @assign a todo rest top =>
      refine hp.plain top rfl (fun _ => rfl) rfl (fun j => ?_) ?_ (by simp)
      · cases a with
        | syncSigHandler sig handler => exact update_running j (by rfl)
        | useAlarm sig useAlarm => exact update_running j (by rfl)
        | notPending sig => exact update_running j (by rfl)
        | noIoHandler => rfl
        | disposition sig disposition => rfl
      · cases a <;> rfl
  | assigned top => exact hp.pop top rfl rfl rfl

/-! ## Signals that were noted -/

/-- The handler of the signal is about to be called. -/
def Process.calling (p : Process H) (i : Nat) : Bool :=
  match p.frames with
  | .sig .call j :: _ => i = j
  | _ => false

/-- What is noted has nothing to do with the handler of the signal. -/
def Aside (i : Nat) (acts : List Act) : Prop :=
  .accepted i ∉ acts ∧ .taken i ∉ acts ∧ .started i ∉ acts ∧ .dropped i ∉ acts

instance (i : Nat) (acts : List Act) : Decidable (Aside i acts) :=
  inferInstanceAs (Decidable (_ ∧ _ ∧ _ ∧ _))

/-- The ways in which an event concerns signal `i`. -/
inductive Concerns (i : Nat) (p q : Process H) : List Act → Prop
  | aside {acts : List Act} (none : Aside i acts)
    (pending : (q.details i).pending = (p.details i).pending)
    (calling : q.calling i = p.calling i) : Concerns i p q acts
  | noted (pending : (q.details i).pending = true) (calling : q.calling i = p.calling i) :
    Concerns i p q [.accepted i]
  | taken (top : ∃ rest, p.frames = .sig .take i :: rest) (pending : (q.details i).pending = false)
    (calling : q.calling i = true) : Concerns i p q [.taken i]
  | called (was : p.calling i = true) (pending : (q.details i).pending = (p.details i).pending)
    (calling : q.calling i = false) : Concerns i p q [.started i]
  | dropped (pending : (q.details i).pending = false) (calling : q.calling i = p.calling i) :
    Concerns i p q [.dropped i]

theorem calling_of_top {frame : Frame H} {rest : List (Frame H)} (top : p.frames = frame :: rest)
    (h : ∀ j, frame ≠ .sig .call j) (i : Nat) : p.calling i = false := by
  unfold Process.calling
  rw [top]
  split
  · rename_i hcall
    exact absurd (List.cons.inj hcall).1 (h _)
  · rfl

/-- Code that runs is not in the middle of the loop. -/
theorem phase_of_inCode {phase : Phase} {rest : List (Frame H)} (h : p.inCode = true)
    (top : p.frames = .sig phase i :: rest) : phase = .inside := by
  unfold Process.inCode at h
  rw [top] at h
  cases phase with
  | inside => rfl
  | _ => cases h

theorem calling_of_inCode (h : p.inCode = true) (i : Nat) : p.calling i = false := by
  unfold Process.calling
  split
  · rename_i hcall
    cases phase_of_inCode h hcall
  · rfl

theorem update_self_pending (t : Nat → SigDetails H) (d : SigDetails H) (i : Nat) :
    (Function.update t i d i).pending = d.pending := by
  rw [Function.update_self]

theorem update_pending {t : Nat → SigDetails H} {d : SigDetails H} {j : Nat}
    (hd : j = i → d.pending = (t j).pending) :
    (Function.update t i d j).pending = (t j).pending := by
  by_cases h : j = i
  · rw [← h, Function.update_self, hd h]
  · rw [Function.update_of_ne h]

/-- The latest call goes on, and it is not about to call a handler. -/
theorem concerns_of_top {frame next : Frame H} {rest : List (Frame H)}
    (top : p.frames = frame :: rest) (frames : q.frames = next :: rest)
    (hframe : ∀ j, frame ≠ .sig .call j) (hnext : ∀ j, next ≠ .sig .call j)
    (none : Aside i acts) (pending : (q.details i).pending = (p.details i).pending) :
    Concerns i p q acts :=
  .aside none pending ((calling_of_top frames hnext i).trans (calling_of_top top hframe i).symm)

theorem aside_nil (i : Nat) : Aside i [] :=
  ⟨List.not_mem_nil, List.not_mem_nil, List.not_mem_nil, List.not_mem_nil⟩

theorem Change.concerns (h : Change p q acts) (hp : Nested p) (i : Nat) : Concerns i p q acts := by
  have hpop {frame : Frame H} (top : p.frames = frame :: q.frames)
      (hframe : ∀ j, frame ≠ .sig .call j) : q.calling i = p.calling i := by
    rw [calling_of_top top hframe]
    unfold Process.calling
    split
    · rename_i hcall
      have hbelow := hp.below
      rw [top, List.tail_cons] at hbelow
      have hinside := hbelow _ (hcall ▸ List.mem_cons_self)
      cases hinside
    · rfl
  have hpush {frame : Frame H} (inCode : p.inCode = true) (frames : q.frames = frame :: p.frames)
      (hframe : ∀ j, frame ≠ .sig .call j) : q.calling i = p.calling i :=
    (calling_of_top frames hframe i).trans (calling_of_inCode inCode i).symm
  cases h with
  | ignored armed kept => exact .aside (aside_nil i) rfl rfl
  | noted j armed handled set kept =>
      by_cases hj : i = j
      · subst hj
        exact .noted (update_self_pending p.details _ i) rfl
      · refine .aside ?_ (update_pending fun h => absurd h hj) rfl
        simp [Aside, hj]
  | check context inCode =>
      refine .aside ?_ rfl (hpush inCode rfl (by simp))
      split
      · simp [Aside]
      · exact aside_nil i
  | assigns todo inCode => exact .aside (aside_nil i) rfl (hpush inCode rfl (by simp))
  | forks todo inCode => exact .aside (by simp [Aside]) rfl (hpush inCode rfl (by simp))
  | alarm armed => exact .aside (by simp [Aside]) rfl rfl
  | ioHandler handler inCode => exact .aside (aside_nil i) rfl rfl
  | ioSkip top => exact concerns_of_top top rfl (by simp) (by simp) (aside_nil i) rfl
  | ioEnter top handled free => exact concerns_of_top top rfl (by simp) (by simp) (aside_nil i) rfl
  | ioCall top => exact concerns_of_top top rfl (by simp) (by simp) (aside_nil i) rfl
  | ioReturn top => exact concerns_of_top top rfl (by simp) (by simp) (aside_nil i) rfl
  | ioLeave top => exact concerns_of_top top rfl (by simp) (by simp) (aside_nil i) rfl
  | done top last => exact .aside (aside_nil i) rfl (hpop top (by simp))
  | skip top inside passed => exact concerns_of_top top rfl (by simp) (by simp) (aside_nil i) rfl
  | enter top pending free => exact concerns_of_top top rfl (by simp) (by simp) (aside_nil i) rfl
  | run top =>
      refine concerns_of_top top rfl (by simp) (by simp) (aside_nil i) (update_pending ?_)
      rintro rfl
      rfl
  | disarm top => exact concerns_of_top top rfl (by simp) (by simp) (by simp [Aside]) rfl
  | keep top => exact concerns_of_top top rfl (by simp) (by simp) (aside_nil i) rfl
  | look top handled => exact concerns_of_top top rfl (by simp) (by simp) (aside_nil i) rfl
  | lookAway top unhandled => exact concerns_of_top top rfl (by simp) (by simp) (aside_nil i) rfl
  | @take j rest top =>
      by_cases hj : i = j
      · subst hj
        exact .taken ⟨rest, top⟩ (update_self_pending p.details _ i) (decide_eq_true rfl)
      · refine .aside (by simp [Aside, hj]) (update_pending fun h => absurd h hj) ?_
        rw [calling_of_top top (by simp)]
        exact decide_eq_false hj
  | @call j rest top =>
      by_cases hj : i = j
      · subst hj
        have hinside : ({ p with frames := .sig .inside i :: rest }).frames =
            .sig .inside i :: rest := rfl
        refine .called ?_ rfl (calling_of_top hinside (by simp) i)
        unfold Process.calling
        rw [top]
        exact decide_eq_true rfl
      · refine .aside (by simp [Aside, hj]) rfl ?_
        rw [calling_of_top (p := { p with frames := .sig .inside j :: rest }) rfl (by simp)]
        unfold Process.calling
        rw [top]
        exact (decide_eq_false hj).symm
  | returns top => exact concerns_of_top top rfl (by simp) (by simp) (aside_nil i) rfl
  | leave top =>
      refine concerns_of_top top rfl (by simp) (by simp) (aside_nil i) (update_pending ?_)
      rintro rfl
      rfl
  | @assign a todo rest top =>
      cases a with
      | syncSigHandler sig handler =>
          refine concerns_of_top top rfl (by simp) (by simp) (by simp [Signals.assign, Aside])
            (update_pending ?_)
          rintro rfl
          rfl
      | useAlarm sig useAlarm =>
          refine concerns_of_top top rfl (by simp) (by simp) (by simp [Signals.assign, Aside])
            (update_pending ?_)
          rintro rfl
          rfl
      | notPending sig =>
          by_cases hj : i = sig
          · subst hj
            have hassign : ({ (Signals.assign p (.notPending i)).1 with
                frames := .assign todo :: rest }).frames = .assign todo :: rest := rfl
            refine .dropped (update_self_pending p.details _ i) ?_
            rw [calling_of_top top (by simp)]
            exact calling_of_top hassign (by simp) i
          · refine concerns_of_top top rfl (by simp) (by simp) ?_
              (update_pending fun h => absurd h hj)
            simp [Signals.assign, Aside, hj]
      | noIoHandler => exact concerns_of_top top rfl (by simp) (by simp) (aside_nil i) rfl
      | disposition sig disposition =>
          refine concerns_of_top top rfl (by simp) (by simp) ?_ rfl
          unfold Signals.assign
          dsimp only
          split
          · simp [Aside]
          · exact aside_nil i
  | assigned top => exact .aside (aside_nil i) rfl (hpop top (by simp))

end Vsftpd.Signals
