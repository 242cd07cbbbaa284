import Vsftpd.Session.Uploads

/-!
# The command loop keeps its invariant

Every command that the dispatcher lets through runs from a settled state without a
pending log entry to such a state.  So does every round of the loop, and so does
the whole run of a session from its login.
-/

namespace Vsftpd.Session

open Vsftpd.Lib

variable {W X α : Type} {cfg : Tunables} {k : Kernel W} {base : VsfSession} {φ : W → X}
  {may : SockAddr → Prop} {start s : State W}

/-! ## What the dispatcher asks for -/

/-- The conditions, besides its name, under which a command is run. -/
def CommandGate (cfg : Tunables) (sess : VsfSession) : Command → Prop
  | .stor | .stou => mayWrite cfg sess cfg.anonUploadEnable = true
  | .mkd => mayWrite cfg sess cfg.anonMkdirWriteEnable = true
  | .rmd | .dele | .rnfr | .rnto | .appe => mayWrite cfg sess cfg.anonOtherWriteEnable = true
  | .site => sess.isAnonymous = false
  | .pasv => cfg.pasvEnable = true ∧ sess.epsvAll = false
  | .port => cfg.portEnable = true ∧ sess.epsvAll = false
  | .epsv => cfg.pasvEnable = true
  | .eprt => cfg.portEnable = true
  | _ => True

theorem firstCommand_mem {table : List (Bool × Command)} (h : firstCommand table ≠ .unknown) :
    (true, firstCommand table) ∈ table := by
  induction table with
  | nil => exact absurd rfl h
  | cons entry rest ih =>
      match entry with
      | (true, command) => exact List.mem_cons_self
      | (false, command) => exact List.mem_cons_of_mem _ (ih h)

theorem commandTable_gates (sess : VsfSession) :
    ∀ entry ∈ commandTable cfg sess, entry.1 = true → CommandGate cfg sess entry.2 := by
  simp +contextual [commandTable, CommandGate]

theorem commandFor_gate (sess : VsfSession) : CommandGate cfg sess (commandFor cfg sess) := by
  by_cases hunknown : commandFor cfg sess = .unknown
  · rw [hunknown]
    trivial
  · exact commandTable_gates sess _ (firstCommand_mem hunknown) rfl

theorem mayWrite_gate {sess : VsfSession} {tunable : Bool}
    (hanon : sess.isAnonymous = base.isAnonymous) (h : mayWrite cfg sess tunable = true) :
    WriteGate cfg base tunable := by
  rw [mayWrite, hanon, Bool.and_eq_true, Bool.or_eq_true] at h
  refine ⟨h.1, fun hbase => h.2.resolve_right fun hlocal => ?_⟩
  rw [hbase] at hlocal
  exact absurd hlocal (by decide)

/-! ## Commands -/

/-- What holds at the top of the loop. -/
structure LoopInv (cfg : Tunables) (base : VsfSession) (φ : W → X) (may : SockAddr → Prop)
    (s : State W) : Prop where
  settled : Settled cfg base may (s.core φ)
  logType : s.session.logType = none

theorem LoopInv.of_core {s' : State W} (h : LoopInv cfg base φ may s)
    (hcore : s'.core φ = s.core φ) :
    LoopInv cfg base φ may s' where
  settled := hcore ▸ h.settled
  logType := by
    have hsteady : s'.session.steady.logType = s.session.steady.logType :=
      congrArg (fun c => c.steady.logType) hcore
    exact hsteady.trans h.logType

theorem LoopInv.calm {m : M W α} {Q : α → State W → Prop} (h : LoopInv cfg base φ may s)
    (hm : Calm cfg k φ m) (hq : ∀ a s', LoopInv cfg base φ may s' → Q a s') :
    wp (sessionRequirement cfg k base φ may start) m Q s :=
  hm.wp h.settled.running fun a s' hcore _ => hq a s' (h.of_core hcore)

/-- An update of the session's data that leaves the log entry alone. -/
theorem LoopInv.note {f : VsfSession → VsfSession} {Q : Unit → State W → Prop}
    (h : LoopInv cfg base φ may s)
    (hout : (s.setSess .session (f s.session)).outline φ = s.outline φ)
    (hlog : (f s.session).logType = s.session.logType)
    (hq : ∀ s', LoopInv cfg base φ may s' → Q () s') :
    wp (sessionRequirement cfg k base φ may start) (updateSession f) Q s :=
  note_wp (φ := φ) hout fun s' h' _ hsess' =>
    hq s' ⟨h.settled.congr h', by rw [hsess', hlog]; exact h.logType⟩

/-- The command that begins in `start` is a PORT or EPRT that is run, about `addr`. -/
def AsksFor (cfg : Tunables) (start : State W) (addr : SockAddr) : Prop :=
  (Runs cfg start .port ∧ portTarget start.session = some addr) ∨
    (Runs cfg start .eprt ∧ eprtTarget start.session = some addr)

/-- What the command that begins in `start` stores meets `may`. -/
def StoresOnly (cfg : Tunables) (may : SockAddr → Prop) (start : State W) : Prop :=
  ∀ addr, AsksFor cfg start addr → PassesPortCheck cfg start.session.remoteAddr addr → may addr

/-- Nothing is asked of a stored address. -/
def AnyAddr (_ : SockAddr) : Prop := True

theorem storesOnly_anyAddr : StoresOnly cfg AnyAddr start := fun _ _ _ => trivial

theorem serves_runCommand (hk : KeepsFs k φ) (h : LoopInv cfg base φ may start)
    (hstores : StoresOnly cfg may start) (hok : cmdOk cfg start.session.ftpCmdStr = true) :
    Serves cfg k base φ may start (runCommand cfg k (commandFor cfg start.session)) := by
  have hs := h.settled
  have hlog := h.logType
  have hanon : start.session.isAnonymous = base.isAnonymous := hs.isAnonymous
  have hremote : start.session.remoteAddr = base.remoteAddr := hs.remoteAddr
  rw [StoresOnly, hremote] at hstores
  have hgate : CommandGate cfg start.session (commandFor cfg start.session) :=
    commandFor_gate start.session
  generalize hc : commandFor cfg start.session = command at hgate
  cases command with
  | quit => exact (calm_vsfCmdioWriteExit hk _ _ _).replying.serves hs
  | pwd => exact (replying_handlePwd hk).serves hs
  | cwd => exact serves_handleCwd hk hs
  | cdup => exact serves_handleCdup hk hs
  | pasv => exact serves_handlePasv hk hs false
  | epsv => exact serves_handlePasv hk hs true
  | retr => exact serves_handleRetr hk hs hlog
  | noop => exact (replying_write hk _ _).serves hs
  | syst => exact (replying_write hk _ _).serves hs
  | help => exact (replying_lines hk _ _ _ _).serves hs
  | list => exact serves_handleDirCommon hk hs ⟨hok, hc⟩ (by decide)
  | type => exact (replying_handleType hk).serves hs
  | port => exact serves_handlePort hk hs fun addr h => hstores addr (.inl ⟨⟨hok, hc⟩, h⟩)
  | stor =>
      have hcommand : UploadCommand cfg false start := .inl ⟨hok, hc⟩
      show Serves cfg k base φ may start (handleUploadCommon cfg k false false)
      exact serves_handleUploadCommon hk hs hlog hcommand (.inl (mayWrite_gate hanon hgate))
  | mkd => exact serves_handleMkd hk hs hlog (mayWrite_gate hanon hgate)
  | rmd => exact serves_handleRmd hk hs hlog (mayWrite_gate hanon hgate)
  | dele => exact serves_handleDele hk hs hlog (mayWrite_gate hanon hgate)
  | rest => exact (replying_handleRest hk).serves hs
  | rnfr => exact serves_handleRnfr hk hs hlog
  | rnto => exact serves_handleRnto hk hs hlog ⟨hok, hc⟩ (mayWrite_gate hanon hgate)
  | nlst => exact serves_handleDirCommon hk hs ⟨hok, hc⟩ (by decide)
  | size => exact (replying_handleSize hk).serves hs
  | site => exact serves_handleSite hk hs hlog (hanon.symm.trans hgate)
  | abor => exact (replying_write hk _ _).serves hs
  | appe =>
      have hcommand : UploadCommand cfg false start := .inr ⟨hok, hc⟩
      show Serves cfg k base φ may start (handleUploadCommon cfg k true false)
      exact serves_handleUploadCommon hk hs hlog hcommand
        (.inr ⟨rfl, mayWrite_gate hanon hgate⟩)
  | mdtm => exact serves_handleMdtm hk hs
  | eprt => exact serves_handleEprt hk hs fun addr h => hstores addr (.inr ⟨⟨hok, hc⟩, h⟩)
  | stru => exact (replying_handleOnlyArg hk _ _ _).serves hs
  | mode => exact (replying_handleOnlyArg hk _ _ _).serves hs
  | stou =>
      have hcommand : UploadCommand cfg true start := ⟨hok, hc⟩
      show Serves cfg k base φ may start (handleUploadCommon cfg k false true)
      exact serves_handleUploadCommon hk hs hlog hcommand (.inl (mayWrite_gate hanon hgate))
  | allo => exact (replying_write hk _ _).serves hs
  | rein => exact (replying_write hk _ _).serves hs
  | acct => exact (replying_write hk _ _).serves hs
  | smnt => exact (replying_write hk _ _).serves hs
  | feat => exact (replying_lines hk _ _ _ _).serves hs
  | opts => exact (replying_handleOpts hk).serves hs
  | stat => exact (replying_handleStat hk).serves hs
  | statFile => exact serves_handleDirCommon hk hs ⟨hok, hc⟩ (by decide)
  | pbsz => exact (replying_handlePbsz hk).serves hs
  | prot => exact (replying_handleProt hk).serves hs
  | user => exact (replying_handleLoggedInUser hk).serves hs
  | pass => exact (replying_write hk _ _).serves hs
  | denied => exact (replying_noPermission hk).serves hs
  | ignored => exact Replying.serves (Quiet.pure ()) hs
  | http => exact (calm_vsfCmdioWriteExit hk _ _ _).replying.serves hs
  | unknown => exact (replying_write hk _ _).serves hs

theorem serves_dispatch (hk : KeepsFs k φ) (h : LoopInv cfg base φ may start)
    (hstores : StoresOnly cfg may start) : Serves cfg k base φ may start (dispatch cfg k) := by
  rw [Serves, dispatch, wp_bind, wp_getSess]
  refine wp_ite.mpr ⟨fun _ => ?_, fun hok => serves_runCommand hk h hstores (eq_true_of_not hok)⟩
  exact (replying_noPermission hk).settled h.settled fun _ _ hs' => hs'

/-! ## Rounds -/

/-- The pending entry is written and forgotten. -/
theorem vsfLogDoLog_wp {succeeded : Bool} {Q : Unit → State W → Prop} (hk : KeepsFs k φ)
    (hs : Settled cfg base may (s.core φ)) (hq : ∀ s', LoopInv cfg base φ may s' → Q () s') :
    wp (sessionRequirement cfg k base φ may start) (vsfLogDoLog cfg k succeeded) Q s := by
  rw [vsfLogDoLog, wp_bind, wp_getSess]
  have hwrite (what : Option LogEntryType) (text : Bytes) :
      Calm cfg k φ (do
        sys k (.log succeeded what text)
        checkPendingActions cfg k) :=
    Quiet.bind (calm_sys hk trivial) fun _ => calm_checkPendingActions hk
  have hthen : wp (sessionRequirement cfg k base φ may start) (do
      sys k (.log succeeded s.session.logType s.session.logStr)
      checkPendingActions cfg k) (fun _ s' => Settled cfg base may (s'.core φ)) s :=
    (hwrite s.session.logType s.session.logStr).wp hs.running fun _ s1 h1 _ => h1 ▸ hs
  rw [wp_bind] at hthen
  rw [wp_bind]
  refine hthen.mono fun _ s1 h1 => ?_
  rw [wp_bind]
  exact h1.mono fun _ s2 hs2 => note_wp (φ := φ) rfl fun s3 h3 _ hsess3 =>
    hq s3 ⟨hs2.congr h3, by rw [hsess3]⟩

theorem finishCommand_wp (hk : KeepsFs k φ) (hs : Settled cfg base may (s.core φ)) :
    wp (sessionRequirement cfg k base φ may start) (finishCommand cfg k)
      (fun _ s' => LoopInv cfg base φ may s') s := by
  rw [finishCommand, wp_bind, wp_getSess, wp_bind]
  have hend (s1 : State W) (h1 : LoopInv cfg base φ may s1) :
      wp (sessionRequirement cfg k base φ may start)
        (do
          let sess ← getSess .session
          if sess.dataTimeout then
            vsfCmdioWriteExit cfg k 421 "Data timeout. Reconnect. Sorry." 1
          else pure ())
        (fun _ s' => LoopInv cfg base φ may s') s1 := by
    rw [wp_bind, wp_getSess]
    refine wp_ite.mpr ⟨fun _ => ?_, fun _ => wp_pure.mpr h1⟩
    have hexit : Calm cfg k φ
        (vsfCmdioWriteExit cfg k 421 "Data timeout. Reconnect. Sorry." 1 : M W Unit) :=
      calm_vsfCmdioWriteExit hk _ _ _
    exact h1.calm hexit fun _ _ h2 => h2
  refine wp_whenever.mpr ⟨fun _ => vsfLogDoLog_wp hk hs hend, fun hnone => hend s ⟨hs, ?_⟩⟩
  exact not_not.mp hnone

theorem serveCommand_wp (hk : KeepsFs k φ) (h : LoopInv cfg base φ may start)
    (hstores : StoresOnly cfg may start) :
    wp (sessionRequirement cfg k base φ may start) (serveCommand cfg k)
      (fun _ s' => LoopInv cfg base φ may s') start := by
  rw [serveCommand, wp_bind]
  exact (serves_dispatch hk h hstores).mono fun _ s1 hs1 => finishCommand_wp hk hs1

/-- Reading a command changes nothing but the command. -/
theorem getCmdAndArg_wp (hk : KeepsFs k φ) (h : LoopInv cfg base φ may s) :
    wp (sessionRequirement cfg k base φ may start) (vsfCmdioGetCmdAndArg cfg k)
      (fun _ s' => LoopInv cfg base φ may s') s := by
  rw [vsfCmdioGetCmdAndArg, wp_bind]
  refine h.calm (calm_getCmdAndArgWith hk (calm_checkPendingActions hk) _) fun cmdArg s1 h1 => ?_
  exact h1.note rfl rfl fun _ h2 => h2

/-! ## Runs -/

/-- The state `process_post_login` is called in. -/
def atLogin (cfg : Tunables) (sess : VsfSession) (world : W) : State W :=
  let fresh : VsfSession :=
    { localAddr := sess.localAddr
      remoteAddr := sess.remoteAddr
      isAnonymous := sess.isAnonymous
      userStr := sess.userStr
      anonFtpUid := sess.anonFtpUid
      guestUserUid := sess.guestUserUid
      anonUploadChownUid := sess.anonUploadChownUid
      remoteIpStr := sess.remoteIpStr
      numClients := sess.numClients
      controlUseSsl := cfg.sslEnable && sess.controlUseSsl
      dataUseSsl := cfg.sslEnable && sess.dataUseSsl
      sslSlaveActive := !cfg.oneProcessModel && (cfg.sslEnable && sess.controlUseSsl) }
  { session := fresh, parent := fresh, world := world }

theorem loopInv_atLogin (cfg : Tunables) (sess : VsfSession) (world : W) (φ : W → X) :
    LoopInv cfg (atLogin cfg sess world).session φ may (atLogin cfg sess world) where
  settled :=
    { dataFd := rfl
      dataSock := rfl
      ioHandler := rfl
      inDataSetup := rfl
      toParent := rfl
      toChild := rfl
      turn := rfl
      remoteAddr := rfl
      localAddr := rfl
      isAnonymous := rfl
      sslSlaveActive := rfl
      epsvAll := fun hlatched => absurd hlatched Bool.false_ne_true
      parent := rfl
      others := fun p _ => by cases p <;> rfl
      notBoth := .inl rfl
      portOk := fun addr haddr => absurd haddr (by intro hsome; cases hsome)
      stored := fun addr haddr => absurd haddr (by intro hsome; cases hsome) }
  logType := rfl

theorem vsfBannerDirChanged_wp {ftpcode : FtpCode} {Q : Unit → State W → Prop}
    (hk : KeepsFs k φ) (h : LoopInv cfg base φ may s)
    (hq : ∀ s', LoopInv cfg base φ may s' → Q () s') :
    wp (sessionRequirement cfg k base φ may start) (vsfBannerDirChanged cfg k ftpcode) Q s := by
  rw [vsfBannerDirChanged, wp_bind, wp_get]
  refine wp_ite.mpr ⟨fun _ => wp_pure.mpr (hq s h), fun _ => ?_⟩
  rw [wp_bind]
  refine h.note rfl rfl fun s1 h1 => ?_
  cases cfg.messageFile with
  | none => exact h1.calm (calm_vsfBannerWrite hk _ _) fun _ s2 h2 => hq s2 h2
  | some file => exact h1.calm (calm_vsfBannerWrite hk _ _) fun _ s2 h2 => hq s2 h2

theorem startPostLogin_wp (hk : KeepsFs k φ) (h : LoopInv cfg base φ may s) :
    wp (sessionRequirement cfg k base φ may start) (startPostLogin cfg k)
      (fun _ s' => LoopInv cfg base φ may s') s := by
  rw [startPostLogin, wp_bind, wp_get, wp_bind]
  refine h.note rfl rfl fun s1 h1 => ?_
  rw [wp_bind, wp_modify, wp_bind]
  have hsigurg : Calm cfg k φ (activateSigurg k) :=
    Quiet.bind (Quiet.modify fun _ => rfl) fun _ => Quiet.bind (calm_sys hk trivial) fun _ =>
      Quiet.ite (Quiet.pure ()) (calm_die _ (by decide))
  have h2 : LoopInv cfg base φ may { s1 with umask := initialUmask cfg s1.session } :=
    h1.of_core rfl
  refine h2.calm (Quiet.whenever hsigurg) fun _ s3 h3 => ?_
  rw [wp_bind]
  refine vsfBannerDirChanged_wp hk h3 fun s4 h4 => ?_
  exact h4.calm (calm_vsfCmdioWrite hk _ _) fun _ _ h5 => h5

/-- `i` commands after the login `s` the loop is at its top in `top`. -/
def TopAfter (cfg : Tunables) (k : Kernel W) (s : State W) (i : Nat) (top : State W) : Prop :=
  (processPostLogin cfg k i s).2 = (top, .ok ())

/-- A command after the login `s` begins in `start`: it has been read. -/
def Begins (cfg : Tunables) (k : Kernel W) (s : State W) (i : Nat) (start : State W) : Prop :=
  ∃ top, TopAfter cfg k s i top ∧ (vsfCmdioGetCmdAndArg cfg k top).2 = (start, .ok ())

/-- Every event of the first `n` commands after the login `s` meets `P` for the state
in which its command begins; those outside of commands meet it for the login, which
asks for no command. -/
structure EveryEvent (cfg : Tunables) (k : Kernel W) (s : State W) (n : Nat)
    (P : State W → Event W → Prop) : Prop where
  login : ∀ e ∈ (startPostLogin cfg k s).1, P s e
  reading : ∀ i top, i < n → TopAfter cfg k s i top →
    ∀ e ∈ (vsfCmdioGetCmdAndArg cfg k top).1, P s e
  serving : ∀ i start, i < n → Begins cfg k s i start →
    ∀ e ∈ (serveCommand cfg k start).1, P start e

/-- Nothing is asked of events and halts. -/
def anyRun : Requirement (Event W) Halt := ⟨fun _ => True, fun _ => True⟩

theorem anyRun_of_wp {R : Requirement (Event W) Halt} {m : M W α} {Q : α → State W → Prop}
    (h : wp R m Q s) : wp anyRun m Q s :=
  h.weaken (fun _ _ => trivial) fun _ _ => trivial

theorem postLoginTurn_wp (hk : KeepsFs k φ) {top : State W} (h : LoopInv cfg base φ may top)
    (hstores : ∀ start, (vsfCmdioGetCmdAndArg cfg k top).2 = (start, .ok ()) →
      StoresOnly cfg may start) :
    wp ⟨fun e => ∃ start, EventOk cfg k base φ start e, Answerable cfg k may⟩
      (postLoginTurn cfg k) (fun _ s' => LoopInv cfg base φ may s') top := by
  rw [postLoginTurn, wp_bind]
  have hread : wp (sessionRequirement cfg k base φ may top) (vsfCmdioGetCmdAndArg cfg k)
      (fun _ s' => LoopInv cfg base φ may s') top := getCmdAndArg_wp hk h
  refine (hread.reached.mono fun _ start hstart => ?_).weaken (fun e he => ⟨top, he⟩) fun _ hh => hh
  have hserve := serveCommand_wp hk hstart.1 (hstores start hstart.2)
  exact hserve.weaken (fun e he => ⟨start, he⟩) fun _ hh => hh

/-- A whole run, from a login in which nothing is set up. -/
theorem processPostLogin_wp (hk : KeepsFs k φ) (h : LoopInv cfg base φ may s) (n : Nat)
    (hstores : ∀ i start, i < n → Begins cfg k s i start → StoresOnly cfg may start) :
    wp ⟨fun e => ∃ start, EventOk cfg k base φ start e, Answerable cfg k may⟩
      (processPostLogin cfg k n) (fun _ s' => LoopInv cfg base φ may s') s := by
  rw [processPostLogin, wp_bind]
  have hlogin : wp (sessionRequirement cfg k base φ may s) (startPostLogin cfg k)
      (fun _ s' => LoopInv cfg base φ may s') s := startPostLogin_wp hk h
  refine (hlogin.reached.mono fun _ s1 h1 => ?_).weaken (fun e he => ⟨s, he⟩) fun _ hh => hh
  refine wp_iterate_of_leads h1.1 fun i top hi hleads htop => ?_
  refine postLoginTurn_wp hk htop fun start hread => ?_
  exact hstores i start hi ⟨top, Prog.bind_result h1.2 hleads, hread⟩

theorem loopInv_topAfter {i : Nat} {top : State W} (hk : KeepsFs k φ)
    (h : LoopInv cfg base φ AnyAddr s) (htop : TopAfter cfg k s i top) :
    LoopInv cfg base φ AnyAddr top :=
  (processPostLogin_wp hk h i fun _ _ _ _ => storesOnly_anyAddr).result htop

theorem loopInv_begins {i : Nat} (hk : KeepsFs k φ) (h : LoopInv cfg base φ AnyAddr s)
    (hbegins : Begins cfg k s i start) : LoopInv cfg base φ AnyAddr start := by
  obtain ⟨top, htop, hread⟩ := hbegins
  have hread' : wp (sessionRequirement cfg k base φ AnyAddr s) (vsfCmdioGetCmdAndArg cfg k)
      (fun _ s' => LoopInv cfg base φ AnyAddr s') top :=
    getCmdAndArg_wp hk (loopInv_topAfter hk h htop)
  exact hread'.result hread

/-- Every event is in order for its command. -/
theorem everyEvent_ok (hk : KeepsFs k φ) (h : LoopInv cfg base φ AnyAddr s) (n : Nat) :
    EveryEvent cfg k s n (EventOk cfg k base φ) where
  login := (startPostLogin_wp hk h).1
  reading := fun _ _ _ htop => (getCmdAndArg_wp hk (loopInv_topAfter hk h htop)).1
  serving := fun _ _ _ hbegins =>
    (serveCommand_wp hk (loopInv_begins hk h hbegins) storesOnly_anyAddr).1

theorem EveryEvent.mono {n : Nat} {P P' : State W → Event W → Prop} (h : EveryEvent cfg k s n P)
    (hlogin : ∀ e, P s e → P' s e)
    (hstart : ∀ i start e, i < n → Begins cfg k s i start → P start e → P' start e) :
    EveryEvent cfg k s n P' where
  login := fun e he => hlogin e (h.login e he)
  reading := fun i top hi htop e he => hlogin e (h.reading i top hi htop e he)
  serving := fun i start hi hbegins e he =>
    hstart i start e hi hbegins (h.serving i start hi hbegins e he)

end Vsftpd.Session
