import Vsftpd.Session.Guarantees

/-!
# After EPSV ALL

`epsv_all` is set once and for all.  The dispatcher looks at it before PORT and before
PASV, and not before EPRT.
-/

namespace Vsftpd.Session

open Vsftpd.Lib

variable {W X α : Type} {cfg : Tunables} {k : Kernel W} {base : VsfSession} {φ : W → X}
  {may : SockAddr → Prop} {start s : State W}

/-! ## The latch -/

/-- The session once it has accepted EPSV ALL. -/
def VsfSession.latched (sess : VsfSession) : VsfSession := { sess with epsvAll := true }

/-- The command that begins in `start` is an EPSV ALL that is let through. -/
structure AcceptsEpsvAll (cfg : Tunables) (start : State W) : Prop where
  cmdOk : cmdOk cfg start.session.ftpCmdStr = true
  command : commandFor cfg start.session = .epsv
  arg : strUpper start.session.ftpArgStr = bytes "ALL"

theorem Settled.latched {c : Core X} (h : Settled cfg base may c) (hall : c.steady.epsvAll = true) :
    Settled cfg base.latched may c :=
  { h with epsvAll := fun _ => hall }

theorem handlePasv_latched (hk : KeepsFs k φ) (hs : Settled cfg base may (start.core φ))
    (harg : strUpper start.session.ftpArgStr = bytes "ALL") :
    wp (sessionRequirement cfg k base φ may start) (handlePasv cfg k true)
      (fun _ s' => Settled cfg base.latched may (s'.core φ)) start := by
  rw [handlePasv, wp_bind, wp_getSess]
  have hnonempty : ¬ strIsempty start.session.ftpArgStr = true := by
    intro hempty
    rw [List.isEmpty_iff.mp hempty] at harg
    exact absurd harg (by decide)
  refine wp_ite.mpr ⟨fun _ => ?_, fun hplain => absurd ⟨rfl, hnonempty⟩ hplain⟩
  dsimp only
  rw [wp_bind]
  refine note_wp (φ := φ) rfl fun s1 h1 _ _ => ?_
  refine wp_ite.mpr ⟨fun _ => ?_, fun hother => absurd harg hother⟩
  rw [wp_bind, updateSession, wp_modifySess]
  have hs2 := (hs.congr h1).setEpsvAll
  refine Calm.wp (calm_vsfCmdioWrite hk _ _) hs2.running fun _ s3 h3 _ => ?_
  have hall : (s3.core φ).steady.epsvAll = true := by
    rw [h3]
    rfl
  exact (h3 ▸ hs2 : Settled cfg base may (s3.core φ)).latched hall

theorem serveCommand_latched (hk : KeepsFs k φ) (h : LoopInv cfg base φ may start)
    (haccepts : AcceptsEpsvAll cfg start) :
    wp anyRun (serveCommand cfg k) (fun _ s' => LoopInv cfg base.latched φ may s') start := by
  rw [serveCommand, wp_bind, dispatch, wp_bind, wp_getSess]
  refine wp_ite.mpr ⟨fun hrefused => ?_, fun _ => ?_⟩
  · have hcmdOk : cmdOk cfg (start.sess .session).ftpCmdStr = true := haccepts.cmdOk
    rw [hcmdOk] at hrefused
    exact absurd hrefused (by decide)
  have hcommand : commandFor cfg (start.sess .session) = .epsv := haccepts.command
  rw [hcommand]
  have hserved := handlePasv_latched hk h.settled haccepts.arg
  refine (anyRun_of_wp hserved).mono fun _ s1 hs1 => ?_
  have hfinish : wp (sessionRequirement cfg k base.latched φ may start) (finishCommand cfg k)
      (fun _ s' => LoopInv cfg base.latched φ may s') s1 := finishCommand_wp hk hs1
  exact anyRun_of_wp hfinish

theorem postLoginTurn_keeps (hk : KeepsFs k φ) :
    Triple anyRun (LoopInv cfg base φ AnyAddr) (postLoginTurn cfg k)
      fun _ s => LoopInv cfg base φ AnyAddr s :=
  fun _ h => anyRun_of_wp (postLoginTurn_wp hk h fun _ _ => storesOnly_anyAddr)

/-- After a command that begins in `start` the loop goes on to `top`. -/
theorem Begins.next {i j : Nat} {top : State W} (h : Begins cfg k s i start) (hij : i < j)
    (htop : TopAfter cfg k s j top) :
    ∃ t m, (serveCommand cfg k start).2 = (t, .ok ()) ∧
      Prog.Leads (postLoginTurn cfg k) m t top := by
  obtain ⟨topI, htopI, hread⟩ := h
  obtain ⟨_, s0, hstartI, hleadI⟩ := Prog.bind_ok htopI
  obtain ⟨_, s0', hstartJ, hleadJ⟩ := Prog.bind_ok htop
  obtain rfl : s0 = s0' := congrArg Prod.fst (hstartI.symm.trans hstartJ)
  obtain ⟨m, rfl⟩ := Nat.exists_eq_add_of_lt hij
  rw [Nat.add_assoc] at hleadJ
  obtain ⟨topI', hleadI', hrest⟩ := Prog.leads_add hleadJ
  obtain rfl : topI = topI' := congrArg Prod.fst (hleadI.symm.trans hleadI')
  obtain ⟨_, t, hturn, hleads⟩ := Prog.bind_ok (m := postLoginTurn cfg k) hrest
  obtain ⟨_, start', hread', hserve⟩ := Prog.bind_ok (m := vsfCmdioGetCmdAndArg cfg k) hturn
  obtain rfl : start = start' := congrArg Prod.fst (hread.symm.trans hread')
  exact ⟨t, m, hserve, hleads⟩

theorem loopInv_latched {i j : Nat} {later : State W} (hk : KeepsFs k φ)
    (h : LoopInv cfg base φ AnyAddr s) (hfirst : Begins cfg k s i start)
    (haccepts : AcceptsEpsvAll cfg start) (hij : i < j) (hlater : Begins cfg k s j later) :
    LoopInv cfg base.latched φ AnyAddr later := by
  obtain ⟨top, htop, hread⟩ := hlater
  obtain ⟨t, m, hserve, hleads⟩ := hfirst.next hij htop
  have ht : LoopInv cfg base.latched φ AnyAddr t :=
    (serveCommand_latched hk (loopInv_begins hk h hfirst) haccepts).result hserve
  have hkept : Triple anyRun (LoopInv cfg base.latched φ AnyAddr)
      (Prog.iterate (postLoginTurn cfg k) m) fun _ s => LoopInv cfg base.latched φ AnyAddr s :=
    (postLoginTurn_keeps hk).iterate m
  have hend : LoopInv cfg base.latched φ AnyAddr top := (hkept t ht).result hleads
  have hgot : wp (sessionRequirement cfg k base.latched φ AnyAddr top) (vsfCmdioGetCmdAndArg cfg k)
      (fun _ s' => LoopInv cfg base.latched φ AnyAddr s') top := getCmdAndArg_wp hk hend
  exact hgot.result hread

/-! ## The refusal -/

/-- PORT, EPRT or PASV. -/
def asksForEndpoint (sess : VsfSession) : Bool := isCmd sess ["PORT", "EPRT", "PASV", "P@SW"]

/-- An EPRT that neither the filter of commands nor `port_enable` stops. -/
def eprtPasses (cfg : Tunables) (sess : VsfSession) : Bool :=
  isCmd sess ["EPRT"] && cfg.portEnable && cmdOk cfg sess.ftpCmdStr

/-- The stored address and the listeners are as in `s`. -/
def SameEndpoints (s s' : State W) : Prop :=
  s'.session.portSockaddr = s.session.portSockaddr ∧
    s'.session.pasvListenFd = s.session.pasvListenFd ∧
    s'.parent.pasvListenFd = s.parent.pasvListenFd

/-- The answer to a command that is denied or, for the other name of PASV, not known. -/
def OnlyRefused (cfg : Tunables) (k : Kernel W) (start : State W) : Prop :=
  dispatch cfg k start = noPermission cfg k start ∨
    dispatch cfg k start = vsfCmdioWrite cfg k 500 "Unknown command." start

/-- The command that begins in `start` only gets an answer, and while it is served and
afterwards the endpoints are those of `start`. -/
structure RefusesCommand (cfg : Tunables) (k : Kernel W) (start : State W) : Prop where
  refused : OnlyRefused cfg k start
  same : wp ⟨fun e => SameEndpoints start e.before, fun _ => True⟩ (serveCommand cfg k)
    (fun _ s => SameEndpoints start s) start

theorem sameEndpoints_of_outline {s' : State W} (h : s'.outline φ = s.outline φ) :
    SameEndpoints s s' :=
  ⟨congrArg Core.portSockaddr h, congrArg Core.listenFd h, congrArg Core.parentListenFd h⟩

theorem replying_finishCommand (hk : KeepsFs k φ) : Replying cfg k φ (finishCommand cfg k) :=
  Quiet.bind (calm_getSess _).replying fun _ =>
    Quiet.bind (Quiet.whenever (replying_vsfLogDoLog hk false)) fun _ =>
      Quiet.bind (calm_getSess _).replying fun _ =>
        Quiet.ite (calm_vsfCmdioWriteExit hk _ _ _).replying (Quiet.pure ())

theorem serveCommand_sameEndpoints {m : M W Unit} (hm : Replying cfg k (fun _ : W => ()) m)
    (h : dispatch cfg k start = m start) :
    wp ⟨fun e => SameEndpoints start e.before, fun _ => True⟩ (serveCommand cfg k)
      (fun _ s => SameEndpoints start s) start := by
  have hreply : Replying cfg k (fun _ : W => ()) (do
      m
      finishCommand cfg k) :=
    Quiet.bind hm fun _ => replying_finishCommand (keepsFs_unit k)
  rw [serveCommand, wp_bind, wp_congr h, ← wp_bind]
  refine Quiet.wp hreply (fun e he => ?_) (fun _ _ => trivial) fun _ s' hs' => ?_
  · exact sameEndpoints_of_outline he.1
  · exact sameEndpoints_of_outline hs'

theorem OnlyRefused.refuses (h : OnlyRefused cfg k start) : RefusesCommand cfg k start where
  refused := h
  same := by
    rcases h with hdenied | hunknown
    · exact serveCommand_sameEndpoints (replying_noPermission (keepsFs_unit k)) hdenied
    · exact serveCommand_sameEndpoints (replying_write (keepsFs_unit k) _ _) hunknown

theorem dispatch_eq (hok : cmdOk cfg start.session.ftpCmdStr = true) :
    dispatch cfg k start = runCommand cfg k (commandFor cfg start.session) start := by
  calc dispatch cfg k start
      = (if !cmdOk cfg start.session.ftpCmdStr then noPermission cfg k
          else runCommand cfg k (commandFor cfg start.session)) start := rfl
    _ = _ := by rw [hok]; rfl

theorem dispatch_filtered (hok : cmdOk cfg start.session.ftpCmdStr = false) :
    dispatch cfg k start = noPermission cfg k start := by
  calc dispatch cfg k start
      = (if !cmdOk cfg start.session.ftpCmdStr then noPermission cfg k
          else runCommand cfg k (commandFor cfg start.session)) start := rfl
    _ = _ := by rw [hok]; rfl

/-- After EPSV ALL the dispatcher runs no PORT, no PASV and no EPRT that does not pass. -/
theorem onlyRefused_of_latched (hall : start.session.epsvAll = true)
    (hasks : asksForEndpoint start.session = true)
    (hpasses : eprtPasses cfg start.session = false) : OnlyRefused cfg k start := by
  cases hok : cmdOk cfg start.session.ftpCmdStr with
  | false => exact .inl (dispatch_filtered hok)
  | true =>
      unfold OnlyRefused
      rw [dispatch_eq hok]
      rw [asksForEndpoint, isCmd, List.any_cons, List.any_cons, List.any_cons, List.any_cons,
        List.any_nil] at hasks
      simp only [Bool.or_eq_true, decide_eq_true_eq, Bool.or_false] at hasks
      rcases hasks with hcmd | hcmd | hcmd | hcmd
      · have hdenied : commandFor cfg start.session = .denied := by
          simp [commandFor, commandTable, isCmd, hcmd, hall, firstCommand, knownCommands, bytes]
        rw [hdenied]
        exact .inl rfl
      · have hoff : cfg.portEnable = false := by
          rw [eprtPasses, hok, Bool.and_true] at hpasses
          simpa [isCmd, hcmd] using hpasses
        have hdenied : commandFor cfg start.session = .denied := by
          simp [commandFor, commandTable, isCmd, hcmd, hoff, firstCommand, knownCommands, bytes]
        rw [hdenied]
        exact .inl rfl
      · have hdenied : commandFor cfg start.session = .denied := by
          simp [commandFor, commandTable, isCmd, hcmd, hall, firstCommand, knownCommands, bytes]
        rw [hdenied]
        exact .inl rfl
      · have hunknown : commandFor cfg start.session = .unknown := by
          simp [commandFor, commandTable, isCmd, hcmd, hall, firstCommand, knownCommands, bytes,
            strIsempty]
        rw [hunknown]
        exact .inr rfl

/-- Once EPSV ALL has been accepted, every later PORT and PASV and every later EPRT that
does not pass is refused. -/
theorem refuses_after_epsvAll (cfg : Tunables) (k : Kernel W) (sess : VsfSession) (world : W)
    (i j : Nat) (first later : State W) (hij : i < j)
    (hfirst : Begins cfg k (atLogin cfg sess world) i first)
    (hlater : Begins cfg k (atLogin cfg sess world) j later)
    (haccepts : AcceptsEpsvAll cfg first)
    (hasks : asksForEndpoint later.session = true)
    (hpasses : eprtPasses cfg later.session = false) : RefusesCommand cfg k later := by
  have hinv := loopInv_latched (keepsFs_unit k) (loopInv_atLogin cfg sess world fun _ => ())
    hfirst haccepts hij hlater
  have hall : later.session.epsvAll = true := hinv.settled.epsvAll rfl
  exact (onlyRefused_of_latched hall hasks hpasses).refuses

/-! ### A run -/

def epsvThenPort : State Script := scriptLogin {} true ["EPSV ALL", "PORT 127,0,0,1,8,0"] []

def epsvThenEprt : State Script :=
  scriptLogin {} true ["EPSV ALL", "EPRT |1|127.0.0.1|2048|"] []

theorem refuses_after_epsvAll_port :
    RefusesCommand {} scriptKernel (scriptStart {} epsvThenPort 1) :=
  refuses_after_epsvAll {} scriptKernel (localClient true) _ 0 1 (scriptStart {} epsvThenPort 0) _
    (by decide) ⟨_, rfl, rfl⟩ ⟨_, rfl, rfl⟩ ⟨by decide, by decide, by decide⟩ (by decide)
    (by decide)

/-- The EPRT is served, and its address is stored. -/
theorem eprt_after_epsvAll :
    Begins {} scriptKernel epsvThenEprt 0 (scriptStart {} epsvThenEprt 0) ∧
      Begins {} scriptKernel epsvThenEprt 1 (scriptStart {} epsvThenEprt 1) ∧
      AcceptsEpsvAll {} (scriptStart {} epsvThenEprt 0) ∧
      asksForEndpoint (scriptStart {} epsvThenEprt 1).session = true ∧
      ¬ RefusesCommand {} scriptKernel (scriptStart {} epsvThenEprt 1) := by
  refine ⟨⟨_, rfl, rfl⟩, ⟨_, rfl, rfl⟩, ⟨by decide, by decide, by decide⟩, by decide, fun h => ?_⟩
  have hserved : (serveCommand {} scriptKernel (scriptStart {} epsvThenEprt 1)).2.2 = .ok () := rfl
  have hend := h.same.2
  rw [hserved] at hend
  exact absurd hend.1 (by decide)

end Vsftpd.Session
