import Mathlib.Logic.Function.Basic
import Mathlib.Data.List.Nodup

/-!
# Signals

The synchronous signal handling of `sysutil.c`.  A handler of the kernel only notes that a
signal came; the code itself asks for what is pending after each system call that may block,
statement by statement, and signals come between any two of them.  The handlers that are called
are any code, which may ask again.
-/

namespace Vsftpd.Signals

variable {H : Type}

def nsig : Nat := 65

def sigalrm : Nat := 14

inductive EVSFSysUtilSignal where
  | alrm
  | term
  | chld
  | pipe
  | urg
  | hup
  deriving DecidableEq, Repr

def vsfSysutilTranslateSig : EVSFSysUtilSignal → Nat
  | .alrm => sigalrm
  | .term => 15
  | .chld => 17
  | .pipe => 13
  | .urg => 23
  | .hup => 1

/-- What the kernel does with a signal: what it does with all, or one of the two functions. -/
inductive Disposition where
  | default
  | common
  | alrm
  deriving DecidableEq, Repr

/-- `struct vsf_sysutil_sig_details`. -/
structure SigDetails (H : Type) where
  syncSigHandler : Option H := none
  pending : Bool := false
  running : Bool := false
  useAlarm : Bool := false

/-- Which statement of the loop over the signals is next. -/
inductive Phase where
  | test
  | enter
  | disarm
  | look
  | take
  | call
  | inside
  | leave
  deriving DecidableEq, Repr

inductive IoPhase where
  | test
  | enter
  | inside
  | leave
  deriving DecidableEq, Repr

inductive Context where
  | io
  | unknown
  deriving DecidableEq, Repr

/-- An assignment to the variables of `sysutil.c`, or to what the kernel does with a signal. -/
inductive Assignment (H : Type) where
  | syncSigHandler (sig : Nat) (handler : Option H)
  | useAlarm (sig : Nat) (useAlarm : Bool)
  | notPending (sig : Nat)
  | noIoHandler
  | disposition (sig : Nat) (disposition : Disposition)
  deriving DecidableEq, Repr

/-- Where a call is: one of `vsf_sysutil_check_pending_actions`, or one that only assigns. -/
inductive Frame (H : Type) where
  | io (phase : IoPhase) (context : Context)
  | sig (phase : Phase) (i : Nat)
  | assign (todo : List (Assignment H))
  deriving DecidableEq, Repr

/-- The variables of `sysutil.c`, the timer, and the calls that have not returned, the latest
first. -/
structure Process (H : Type) where
  details : Nat → SigDetails H := fun _ => {}
  disposition : Nat → Disposition := fun _ => .default
  armed : Bool := false
  ioHandler : Option H := none
  ioRunning : Bool := false
  frames : List (Frame H) := []

/-- What is noted of a run. -/
inductive Act where
  /-- A signal came and was noted. -/
  | accepted (i : Nat)
  /-- The main program asks for what is pending. -/
  | began
  /-- The timer is stopped for a signal that is about to be handled. -/
  | disarmed (i : Nat)
  /-- The note is taken back, for the handler to be called. -/
  | taken (i : Nat)
  | started (i : Nat)
  /-- The child forgets the signal. -/
  | dropped (i : Nat)
  /-- Another handler is installed for the signal, or none, or it uses the timer or not. -/
  | changed (i : Nat)
  /-- The timer is set by other code, or its signal does not start it again. -/
  | retimed
  deriving DecidableEq, Repr

inductive Event (H : Type) where
  | deliver (signum : Nat)
  /-- The timer runs out. -/
  | expire
  /-- The next statement of the latest call. -/
  | advance
  /-- The handler that is running returns. -/
  | returns
  /-- The code that is running, the main program or a handler, makes a call. -/
  | check (context : Context)
  | install (sig : EVSFSysUtilSignal) (handler : H) (useAlarm : Bool)
  | installNull (sig : EVSFSysUtilSignal)
  | defaultSig (sig : EVSFSysUtilSignal)
  | installIo (handler : H)
  | uninstallIo
  | setAlarm (triggerSeconds : Nat)
  /-- The child goes on. -/
  | fork

/-! ## The code -/

section
variable (p : Process H)

def Process.setDetails (i : Nat) (f : SigDetails H → SigDetails H) : Process H :=
  { p with details := Function.update p.details i (f (p.details i)) }

def vsfSysutilCommonSighandler (signum : Nat) : Process H × List Act :=
  if signum ≥ nsig then (p, [])
  else if (p.details signum).syncSigHandler.isSome then
    let q := p.setDetails signum fun d => { d with pending := true }
    (if (p.details signum).useAlarm then { q with armed := true } else q, [.accepted signum])
  else (p, [])

def vsfSysutilAlrmSighandler : Process H × List Act := ({ p with armed := true }, [])

/-- A signal that is left to the kernel does nothing to the process, or ends it. -/
def deliver (signum : Nat) : Process H × List Act :=
  match p.disposition signum with
  | .default => (p, [])
  | .common => vsfSysutilCommonSighandler p signum
  | .alrm => vsfSysutilAlrmSighandler p

/-- The next statement of the loop for signal `i`. -/
def sigStep (i : Nat) (rest : List (Frame H)) : Phase → Option (Process H × List Act)
  | .test =>
    if i < nsig then
      if (p.details i).pending && !(p.details i).running then
        some ({ p with frames := .sig .enter i :: rest }, [])
      else some ({ p with frames := .sig .test (i + 1) :: rest }, [])
    else some ({ p with frames := rest }, [])
  | .enter =>
    some ({ p.setDetails i fun d => { d with running := true } with
      frames := .sig .disarm i :: rest }, [])
  | .disarm =>
    if (p.details i).useAlarm then
      some ({ p with armed := false, frames := .sig .look i :: rest }, [.disarmed i])
    else some ({ p with frames := .sig .look i :: rest }, [])
  | .look =>
    if (p.details i).syncSigHandler.isSome then
      some ({ p with frames := .sig .take i :: rest }, [])
    else some ({ p with frames := .sig .leave i :: rest }, [])
  | .take =>
    some ({ p.setDetails i fun d => { d with pending := false } with
      frames := .sig .call i :: rest }, [.taken i])
  | .call => some ({ p with frames := .sig .inside i :: rest }, [.started i])
  | .inside => none
  | .leave =>
    some ({ p.setDetails i fun d => { d with running := false } with
      frames := .sig .test (i + 1) :: rest }, [])

/-- The i/o handler is checked before the signal handlers. -/
def ioStep (context : Context) (rest : List (Frame H)) : IoPhase → Option (Process H × List Act)
  | .test =>
    if p.ioHandler.isSome && !p.ioRunning && context = .io then
      some ({ p with frames := .io .enter context :: rest }, [])
    else some ({ p with frames := .sig .test 0 :: rest }, [])
  | .enter => some ({ p with ioRunning := true, frames := .io .inside context :: rest }, [])
  | .inside => none
  | .leave => some ({ p with ioRunning := false, frames := .sig .test 0 :: rest }, [])

def assign : Assignment H → Process H × List Act
  | .syncSigHandler sig handler =>
    (p.setDetails sig fun d => { d with syncSigHandler := handler }, [.changed sig])
  | .useAlarm sig useAlarm =>
    (p.setDetails sig fun d => { d with useAlarm := useAlarm }, [.changed sig])
  | .notPending sig => (p.setDetails sig fun d => { d with pending := false }, [.dropped sig])
  | .noIoHandler => ({ p with ioHandler := none }, [])
  | .disposition sig disposition =>
    ({ p with disposition := Function.update p.disposition sig disposition },
      if sig = sigalrm ∧ disposition ≠ .alrm then [.retimed] else [])

def assignStep (rest : List (Frame H)) :
    List (Assignment H) → Option (Process H × List Act)
  | [] => some ({ p with frames := rest }, [])
  | a :: todo =>
    let (q, acts) := assign p a
    some ({ q with frames := .assign todo :: rest }, acts)

def advance : Option (Process H × List Act) :=
  match p.frames with
  | [] => none
  | .io phase context :: rest => ioStep p context rest phase
  | .sig phase i :: rest => sigStep p i rest phase
  | .assign todo :: rest => assignStep p rest todo

/-- The handler that runs is back where it was called. -/
def handlerReturns : Option (Process H × List Act) :=
  match p.frames with
  | .io .inside context :: rest => some ({ p with frames := .io .leave context :: rest }, [])
  | .sig .inside i :: rest => some ({ p with frames := .sig .leave i :: rest }, [])
  | _ => none

def vsfSysutilInstallSighandler (sig : EVSFSysUtilSignal) (handler : H) (useAlarm : Bool) :
    List (Assignment H) :=
  let realsig := vsfSysutilTranslateSig sig
  [.syncSigHandler realsig (some handler), .useAlarm realsig useAlarm,
    .disposition realsig .common] ++
    if useAlarm && realsig ≠ sigalrm then [.disposition sigalrm .alrm] else []

def vsfSysutilInstallNullSighandler (sig : EVSFSysUtilSignal) : List (Assignment H) :=
  let realsig := vsfSysutilTranslateSig sig
  [.syncSigHandler realsig none, .disposition realsig .common]

def vsfSysutilDefaultSig (sig : EVSFSysUtilSignal) : List (Assignment H) :=
  let realsig := vsfSysutilTranslateSig sig
  [.disposition realsig .default, .syncSigHandler realsig none]

def vsfSysutilPostFork : List (Assignment H) :=
  .noIoHandler :: (List.range nsig).map (fun i => .syncSigHandler i none) ++
    (List.range nsig).map .notPending

/-- A second i/o handler is a bug, and so is no handler to remove. -/
def vsfSysutilInstallIoHandler (handler : H) : Option (Process H × List Act) :=
  if p.ioHandler.isSome then none else some ({ p with ioHandler := some handler }, [])

def vsfSysutilUninstallIoHandler : Option (Process H × List Act) :=
  if p.ioHandler.isSome then some ({ p with ioHandler := none }, []) else none

def vsfSysutilSetAlarm (triggerSeconds : Nat) : Process H × List Act :=
  ({ p with armed := triggerSeconds > 0 }, [.retimed])

/-- The main program or a handler is running. -/
def Process.inCode : Bool :=
  match p.frames with
  | [] => true
  | .io .inside _ :: _ => true
  | .sig .inside _ :: _ => true
  | _ => false

def checkPendingActions (context : Context) : Process H × List Act :=
  ({ p with frames := .io .test context :: p.frames }, if p.frames = [] then [.began] else [])

def call (todo : List (Assignment H)) : Process H × List Act :=
  ({ p with frames := .assign todo :: p.frames }, [])

/-- The child has no timer of its own yet. -/
def fork : Process H × List Act :=
  ({ p with armed := false, frames := .assign vsfSysutilPostFork :: p.frames }, [.retimed])

def ifInCode (result : Option (Process H × List Act)) : Option (Process H × List Act) :=
  if p.inCode then result else none

/-- Signals come at any time, calls come from code that is running. -/
def step : Event H → Option (Process H × List Act)
  | .deliver signum => some (deliver p signum)
  | .expire => if p.armed then some (deliver { p with armed := false } sigalrm) else none
  | .advance => advance p
  | .returns => handlerReturns p
  | .check context => ifInCode p (some (checkPendingActions p context))
  | .install sig handler useAlarm =>
    ifInCode p (some (call p (vsfSysutilInstallSighandler sig handler useAlarm)))
  | .installNull sig => ifInCode p (some (call p (vsfSysutilInstallNullSighandler sig)))
  | .defaultSig sig => ifInCode p (some (call p (vsfSysutilDefaultSig sig)))
  | .installIo handler => ifInCode p (vsfSysutilInstallIoHandler p handler)
  | .uninstallIo => ifInCode p (vsfSysutilUninstallIoHandler p)
  | .setAlarm triggerSeconds => ifInCode p (some (vsfSysutilSetAlarm p triggerSeconds))
  | .fork => ifInCode p (some (fork p))

end

/-- The process after some events, in whatever order, and what is noted of them. -/
inductive Run : Process H → List Act → Process H → Prop
  | nil (p : Process H) : Run p [] p
  | snoc {p q r : Process H} {acts more : List Act} (run : Run p acts q) (event : Event H)
    (h : step q event = some (r, more)) : Run p (acts ++ more) r

end Vsftpd.Signals
