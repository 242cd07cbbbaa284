import Vsftpd.Session.DataConnections

/-!
# What a handler that only replies leaves alone

The outline of a state is its core without the arguments, the log entry and the
settings of the session.  A settled state is known by its outline.
-/

namespace Vsftpd.Session

open Vsftpd.Lib

variable {W X α : Type} {cfg : Tunables} {k : Kernel W} {base : VsfSession} {φ : W → X}
  {may : SockAddr → Prop} {start s : State W}

/-! ## Outlines -/

/-- The session's data that no command changes. -/
def VsfSession.outline (sess : VsfSession) : VsfSession :=
  { localAddr := sess.localAddr
    remoteAddr := sess.remoteAddr
    isAnonymous := sess.isAnonymous
    epsvAll := sess.epsvAll
    sslSlaveActive := sess.sslSlaveActive }

def Core.outline (c : Core X) : Core X := { c with steady := c.steady.outline }

def State.outline (φ : W → X) (s : State W) : Core X := (s.core φ).outline

theorem running_outline {c : Core X} : Running cfg base c.outline ↔ Running cfg base c :=
  ⟨fun h => ⟨{ h.inv with }, h.turn⟩, fun h => ⟨{ h.inv with }, h.turn⟩⟩

theorem ready_outline {c : Core X} : Ready cfg base c.outline ↔ Ready cfg base c :=
  ⟨fun h => { h with }, fun h => { h with }⟩

theorem settled_outline {c : Core X} : Settled cfg base may c.outline ↔ Settled cfg base may c :=
  ⟨fun h => { h with }, fun h => { h with }⟩

theorem Settled.congr {c c' : Core X} (h : Settled cfg base may c) (hc : c'.outline = c.outline) :
    Settled cfg base may c' :=
  settled_outline.mp (hc ▸ settled_outline.mpr h)

/-- Only calm calls are made and the outline stays. -/
abbrev Replying (cfg : Tunables) (k : Kernel W) (φ : W → X) (m : M W α) : Prop :=
  Quiet (State.outline φ) (fun v e => e.before.outline φ = v ∧ CalmCall e.call)
    (CalmHalt cfg k) m

theorem Calm.replying {m : M W α} (h : Calm cfg k φ m) : Replying cfg k φ m := by
  intro v s hs
  subst hs
  have hcalm := h (s.calmView φ) s rfl
  refine (hcalm.mono fun a s' hs' => ?_).weaken (fun e he => ⟨?_, he.2⟩) fun _ hh => hh
  · exact congrArg (fun v => v.1.outline) hs'
  · exact congrArg (fun v => v.1.outline) he.1

theorem Replying.wp {m : M W α} {Q : α → State W → Prop} (h : Replying cfg k φ m)
    (hs : Running cfg base (s.core φ)) (hq : ∀ a s', s'.outline φ = s.outline φ → Q a s') :
    wp (sessionRequirement cfg k base φ may start) m Q s := by
  refine Quiet.wp h ?_ (fun _ ha => ha.answerable cfg k may) hq
  rintro ⟨c, s'⟩ ⟨hout, hcalm⟩
  have hcore : (s'.core φ).outline = (s.core φ).outline := hout
  have hrun : Running cfg base (s'.core φ) := by
    rw [← running_outline, hcore]
    exact running_outline.mpr hs
  exact hrun.eventOk (issued_of_calm hcalm)

/-- From a settled state to a settled state. -/
theorem Replying.settled {m : M W α} {Q : α → State W → Prop} (h : Replying cfg k φ m)
    (hs : Settled cfg base may (s.core φ))
    (hq : ∀ a s', Settled cfg base may (s'.core φ) → Q a s') :
    Lib.wp (sessionRequirement cfg k base φ may start) m Q s :=
  h.wp hs.running fun a s' h' => hq a s' (hs.congr h')

/-! ## Log entries -/

theorem replying_setLogStr (text : Bytes) : Replying cfg k φ (setLogStr text : M W Unit) :=
  Quiet.modify fun _ => rfl

theorem replying_logArg : Replying cfg k φ (logArg k) :=
  Quiet.bind Quiet.get fun _ => replying_setLogStr _

theorem replying_resolveArg : Replying cfg k φ (resolveArg cfg k) :=
  Quiet.bind Quiet.get fun _ => Quiet.modify fun _ => rfl

theorem replying_vsfLogClearEntry : Replying cfg k φ (vsfLogClearEntry : M W Unit) :=
  Quiet.modify fun _ => rfl

theorem replying_vsfLogDoLog (hk : KeepsFs k φ) (succeeded : Bool) :
    Replying cfg k φ (vsfLogDoLog cfg k succeeded) :=
  Quiet.bind (calm_getSess _).replying fun sess =>
    Quiet.bind (calm_sys hk (c := .log succeeded sess.logType sess.logStr) trivial).replying
      fun _ => Quiet.bind (calm_checkPendingActions hk).replying fun _ => replying_vsfLogClearEntry

/-! ### Notes of the session -/

section
variable {R : Requirement (Event W) Halt} {Q : Unit → State W → Prop}

/-- An update of the session's data that its outline does not show. -/
theorem note_wp {f : VsfSession → VsfSession}
    (hf : (s.setSess .session (f s.session)).outline φ = s.outline φ)
    (hq : ∀ s', s'.outline φ = s.outline φ → s'.world = s.world → s'.session = f s.session →
      Q () s') : wp R (updateSession f) Q s :=
  wp_modifySess.mpr (hq _ hf rfl rfl)

theorem resolveArg_wp
    (hq : ∀ s', s'.outline φ = s.outline φ → s'.world = s.world →
      s'.session = { s.session with ftpArgStr := resolveName cfg k s s.session.ftpArgStr } →
      Q () s') : wp R (resolveArg cfg k) Q s := by
  rw [resolveArg, wp_bind, wp_get]
  exact note_wp rfl hq

theorem logArg_wp
    (hq : ∀ s', s'.outline φ = s.outline φ → s'.world = s.world →
      s'.session = { s.session with logStr := fullName k s s.session.ftpArgStr } → Q () s') :
    wp R (logArg k) Q s := by
  rw [logArg, wp_bind, wp_get]
  exact note_wp rfl hq

/-- A log entry can be started since none is pending. -/
theorem vsfLogStartEntry_wp {what : LogEntryType} (hlog : s.session.logType = none)
    (hq : ∀ s', s'.outline φ = s.outline φ → s'.world = s.world →
      s'.session = { s.session with logType := some what, transferSize := 0, logStr := [] } →
      Q () s') : wp R (vsfLogStartEntry what) Q s := by
  rw [vsfLogStartEntry, wp_bind, wp_getSess]
  exact wp_ite.mpr ⟨fun hne => absurd hlog hne, fun _ => note_wp rfl hq⟩

end

/-! ## Replies -/

theorem replying_write (hk : KeepsFs k φ) (status : FtpCode) (text : String) :
    Replying cfg k φ (vsfCmdioWrite cfg k status text) :=
  (calm_vsfCmdioWrite hk status text).replying

theorem replying_writeStr (hk : KeepsFs k φ) (status : FtpCode) (text : Bytes) :
    Replying cfg k φ (vsfCmdioWriteStr cfg k status text) :=
  (calm_vsfCmdioWriteStr hk status text).replying

theorem replying_noPermission (hk : KeepsFs k φ) : Replying cfg k φ (noPermission cfg k) :=
  replying_write hk _ _

theorem replying_vsfBannerDirChanged (hk : KeepsFs k φ) (ftpcode : FtpCode) :
    Replying cfg k φ (vsfBannerDirChanged cfg k ftpcode) := by
  refine Quiet.bind Quiet.get fun s => Quiet.ite (Quiet.pure ()) ?_
  refine Quiet.bind (Quiet.modify fun _ => rfl) fun _ => ?_
  match cfg.messageFile with
  | none => exact (calm_vsfBannerWrite hk _ _).replying
  | some file => exact (calm_vsfBannerWrite hk _ _).replying

theorem replying_reportOperation (hk : KeepsFs k φ) (ok : Bool) (status : FtpCode)
    (success failure : String) :
    Replying cfg k φ (reportOperation cfg k ok status success failure) :=
  Quiet.ite (Quiet.bind (replying_vsfLogDoLog hk _) fun _ => replying_write hk _ _)
    (replying_write hk _ _)

theorem replying_checkAbor (hk : KeepsFs k φ) : Replying cfg k φ (checkAbor cfg k) := by
  refine Quiet.bind (calm_getSess _).replying fun _ => Quiet.ite ?_ (Quiet.pure ())
  exact Quiet.bind (Quiet.modify fun _ => rfl) fun _ => replying_write hk _ _

theorem replying_replyTransfer (hk : KeepsFs k φ) (retval : Int)
    (localFailure networkFailure : String) :
    Replying cfg k φ (replyTransfer cfg k retval localFailure networkFailure) := by
  refine Quiet.bind (calm_getSess _).replying fun _ => Quiet.ite (replying_write hk _ _) ?_
  exact Quiet.ite (Quiet.ite (Quiet.pure ()) (replying_write hk _ _)) (replying_write hk _ _)

theorem replying_replyListing (hk : KeepsFs k φ) (retval : Int) (readable : Bool) :
    Replying cfg k φ (replyListing cfg k retval readable) := by
  refine Quiet.bind (calm_getSess _).replying fun _ => Quiet.ite ?_ ?_
  · exact Quiet.ite (Quiet.pure ()) (replying_write hk _ _)
  · exact Quiet.ite (replying_write hk _ _) (replying_write hk _ _)

end Vsftpd.Session
