import Vsftpd.Session.EndpointCommands

/-!
# Downloads and listings

A transfer begins with an endpoint that is there and ends without a connection and
without an endpoint, whichever way it goes.
-/

namespace Vsftpd.Session

open Vsftpd.Lib

variable {W X α : Type} {cfg : Tunables} {k : Kernel W} {base : VsfSession} {φ : W → X}
  {may : SockAddr → Prop} {start s : State W}

/-! ## Around a connection -/

theorem Active.congr {c c' : Core X} (h : Active cfg c) (hc : c'.outline = c.outline) :
    Active cfg c' := by
  have hlistener : c'.outline.listener cfg = c.outline.listener cfg :=
    congrArg (Core.listener cfg) hc
  have hport : c'.portSockaddr = c.portSockaddr := congrArg (fun c => c.portSockaddr) hc
  unfold Active at h ⊢
  unfold Core.listener at hlistener h ⊢
  cases hp : listenerProc cfg with
  | session =>
      rw [hp] at hlistener h
      have hlisten : c'.listenOf .session = c.listenOf .session := hlistener
      rw [hlisten, hport]
      exact h
  | parent =>
      rw [hp] at hlistener h
      have hlisten : c'.listenOf .parent = c.listenOf .parent := hlistener
      rw [hlisten, hport]
      exact h

theorem Ready.congr {c c' : Core X} (h : Ready cfg base c) (hc : c'.outline = c.outline) :
    Ready cfg base c' :=
  ready_outline.mp (hc ▸ ready_outline.mpr h)

/-- What a function that may have attached a connection to the core `c` leaves. -/
def Attached (cfg : Tunables) (base : VsfSession) (φ : W → X) (c : Core X) (fd : Fd)
    (s : State W) : Prop :=
  (fd < 0 ∧ s.core φ = c) ∨
    ∃ sock, Connection cfg base fd sock ∧ s.core φ = c.attach fd sock

theorem getRemoteTransferFd_attached {c : Core X} {statusMsg : Bytes} {Q : Fd → State W → Prop}
    (hk : KeepsFs k φ) (h : Settled cfg base may c) (hactive : Active cfg c) (hs : s.core φ = c)
    (hq : ∀ fd s', Attached cfg base φ c fd s' → Q fd s') :
    wp (sessionRequirement cfg k base φ may start) (getRemoteTransferFd cfg k statusMsg) Q s := by
  subst hs
  apply getRemoteTransferFd_wp hk h hactive
  · exact fun fd s' hneg h' => hq fd s' (.inl ⟨hneg, h'⟩)
  · exact fun fd sock s' hconn h' => hq fd s' (.inr ⟨sock, hconn, h'⟩)

/-- The reply to a transfer, after its connection is gone. -/
theorem finishTransfer_wp {c : Core X} {fd : Fd} {sock : Sock} {ret : VsfTransferRet}
    {localFailure networkFailure : String} {Q : Int → State W → Prop} (hk : KeepsFs k φ)
    (h : Ready cfg base c) (hconn : Connection cfg base fd sock)
    (hs : s.core φ = c.attach fd sock)
    (hq : ∀ a s', s'.outline φ = c.outline → Q a s') :
    wp (sessionRequirement cfg k base φ may start)
      (finishTransfer cfg k ret localFailure networkFailure) Q s := by
  rw [finishTransfer, wp_bind]
  refine dispose_wp hk h.toDetached h.toIdle hconn hs fun disposed s1 h1 => ?_
  dsimp only
  generalize (if (!disposed) = true ∧ ret.retval = 0 then (-2 : Int) else ret.retval) = retval
  have hreply : Replying cfg k φ (do
      updateSession fun sess => { sess with transferSize := ret.transferred }
      Prog.whenever (retval = 0) (vsfLogDoLog cfg k true)
      replyTransfer cfg k retval localFailure networkFailure
      checkAbor cfg k
      pure retval) :=
    Quiet.bind (Quiet.modify fun _ => rfl) fun _ =>
      Quiet.bind (Quiet.whenever (replying_vsfLogDoLog hk true)) fun _ =>
        Quiet.bind (replying_replyTransfer hk _ _ _) fun _ =>
          Quiet.bind (replying_checkAbor hk) fun _ => Quiet.pure _
  refine Replying.wp hreply (h1 ▸ h.running) fun a s2 h2 => hq a s2 ?_
  exact h2.trans (congrArg Core.outline h1)

/-- Both endpoints are given up. -/
theorem portPasvCleanup_settled {f : Unit → M W α} {Q : α → State W → Prop} (hk : KeepsFs k φ)
    (h : Ready cfg base (s.core φ))
    (hq : ∀ s', s'.outline φ = ((s.core φ).cleared cfg).outline → Settled cfg base may (s'.core φ) →
      wp (sessionRequirement cfg k base φ may start) (f ()) Q s') :
    wp (sessionRequirement cfg k base φ may start)
      (do
        let u ← portPasvCleanup cfg k
        f u) Q s := by
  rw [wp_bind]
  refine portPasvCleanup_wp hk h fun s1 h1 => ?_
  have hcleared : s1.core φ = (s.core φ).cleared cfg := h1.trans (Core.setPort_setListener _ _ _)
  exact hq s1 (congrArg Core.outline hcleared) (hcleared ▸ h.cleared_settled)

theorem closeFile_settled {fd : Fd} (hk : KeepsFs k φ) (h : Settled cfg base may (s.core φ)) :
    wp (sessionRequirement cfg k base φ may start) (closeFile cfg k fd)
      (fun _ s' => Settled cfg base may (s'.core φ)) s :=
  close_calm hk (checks_session hk h.turn) h.toDetached fun _ h1 => h1 ▸ h

/-! ## Files -/

/-- The core after a change of the file system. -/
def Core.withFs (c : Core X) (fs : X) : Core X := { c with fs := fs }

/-- The core with a file that was opened. -/
def Core.withFile (c : Core X) (fd : Fd) (file : OpenFile) (fs : X) : Core X :=
  { c with files := Function.update c.files fd (some file), fs := fs }

theorem Settled.withFs {c : Core X} (h : Settled cfg base may c) (fs : X) :
    Settled cfg base may (c.withFs fs) :=
  { h with }

theorem Settled.withFile {c : Core X} (h : Settled cfg base may c) (fd : Fd) (file : OpenFile)
    (fs : X) : Settled cfg base may (c.withFile fd file fs) :=
  { h with }

theorem Active.withFile {c : Core X} (h : Active cfg c) (fd : Fd) (file : OpenFile) (fs : X) :
    Active cfg (c.withFile fd file fs) := by
  have hlistener : (c.withFile fd file fs).listener cfg = c.listener cfg := by
    unfold Core.listener
    cases listenerProc cfg <;> rfl
  unfold Active
  rw [hlistener]
  exact h

theorem openFile_wp {file : OpenFile} {Q : Fd → State W → Prop}
    (hs : Settled cfg base may (s.core φ))
    (hissued : checkFile cfg k s file.path = true ∧ OpenGate cfg base file.how ∧
      (file.how ≠ .read → ∃ isUnique, UploadCommand cfg isUnique start))
    (hfail : ∀ s', Settled cfg base may (s'.core φ) → Q (-1) s')
    (hok : ∀ (fd : Fd) s', (k.run (.open fd file) s.world).1 = true →
      s'.core φ = (s.core φ).withFile fd file (φ (k.run (.open fd file) s.world).2) → 0 ≤ fd →
      Q fd s') :
    wp (sessionRequirement cfg k base φ may start) (openFile k file) Q s := by
  rw [openFile, wp_bind, wp_get, wp_bind, wp_sys]
  refine ⟨hs.running.eventOk hissued, wp_ite.mpr ⟨fun hopen => ?_, fun _ => ?_⟩⟩
  · rw [wp_bind, wp_newFd, wp_bind, wp_modify, wp_pure]
    exact hok s.nextFd _ hopen rfl (Int.natCast_nonneg s.nextFd)
  · exact wp_pure.mpr (hfail _ (hs.withFs _))

theorem withFstat_wp {fd : Fd} {f : Statbuf → M W α} {Q : α → State W → Prop}
    (hf : ∀ statbuf, wp (sessionRequirement cfg k base φ may start) (f statbuf) Q s) :
    wp (sessionRequirement cfg k base φ may start) (withFstat k fd f) Q s := by
  rw [withFstat, wp_bind, wp_get]
  cases k.fstat s.world fd with
  | none => exact wp_die.mpr (answerable_die _ _ _ _ (by decide))
  | some statbuf => exact hf statbuf

theorem calm_lockFile (hk : KeepsFs k φ) (fd : Fd) (write : Bool) :
    Calm cfg k φ (lockFile cfg k fd write) :=
  Quiet.bind (calm_sys hk trivial) fun _ => calm_checkPendingActions hk

theorem calm_lseekTo (hk : KeepsFs k φ) (fd : Fd) (pos : Int) :
    Calm cfg k φ (vsfSysutilLseekTo k fd pos) :=
  Quiet.ite (calm_die _ (by decide))
    (Quiet.bind (calm_sys hk trivial) fun _ => Quiet.ite (Quiet.pure ()) (calm_die _ (by decide)))

theorem calm_lseekEnd (hk : KeepsFs k φ) (fd : Fd) : Calm cfg k φ (vsfSysutilLseekEnd k fd) :=
  Quiet.bind (calm_sys hk trivial) fun _ => Quiet.ite (Quiet.pure ()) (calm_die _ (by decide))

/-! ### RETR -/

theorem retrTransfer_wp {c : Core X} {remoteFd openedFile : Fd} {isAscii : Bool}
    {Q : Unit → State W → Prop} (hk : KeepsFs k φ) (h : Ready cfg base c)
    (hs : Attached cfg base φ c remoteFd s) (hq : ∀ s', s'.outline φ = c.outline → Q () s') :
    wp (sessionRequirement cfg k base φ may start) (retrTransfer cfg k remoteFd openedFile isAscii)
      Q s := by
  rcases hs with ⟨hneg, hs⟩ | ⟨sock, hconn, hs⟩
  · exact wp_ite.mpr ⟨fun _ => wp_pure.mpr (hq s (congrArg Core.outline hs)),
      fun hnonneg => absurd hneg hnonneg⟩
  · refine wp_ite.mpr ⟨fun hneg => absurd hconn.nonneg (Int.not_le.mpr hneg), fun _ => ?_⟩
    rw [wp_bind]
    refine transferFile_wp hk h.toIdle hconn hs (fun hfalse => absurd hfalse (by decide))
      fun ret s1 h1 => ?_
    rw [wp_bind]
    exact finishTransfer_wp hk h hconn (h1.trans hs) fun _ s2 h2 => wp_pure.mpr (hq s2 h2)

theorem retrOpened_wp {offset : Int} {openedFile : Fd} (hk : KeepsFs k φ)
    (hs : Settled cfg base may (s.core φ)) (hactive : Active cfg (s.core φ)) :
    wp (sessionRequirement cfg k base φ may start) (retrOpened cfg k offset openedFile)
      (fun _ s' => Settled cfg base may (s'.core φ)) s := by
  rw [retrOpened, wp_bind]
  refine Calm.wp (Quiet.whenever (calm_lockFile hk _ _)) hs.running fun _ s1 h1 _ => ?_
  refine withFstat_wp fun statbuf => ?_
  rw [wp_bind, wp_getSess]
  have hs1 : Settled cfg base may (s1.core φ) := h1 ▸ hs
  -- the refusals: a reply, and the file is closed
  have hrefuse {m : M W Unit} (hm : Replying cfg k φ m) {s2 : State W}
      (hs2 : Settled cfg base may (s2.core φ)) :
      wp (sessionRequirement cfg k base φ may start)
        (do
          m
          closeFile cfg k openedFile)
        (fun _ s' => Settled cfg base may (s'.core φ)) s2 := by
    rw [wp_bind]
    exact hm.settled hs2 fun _ s3 hs3 => closeFile_settled hk hs3
  refine wp_ite.mpr ⟨fun _ => ?_, fun _ => ?_⟩
  · rw [wp_bind]
    refine (replying_write hk _ _).settled hs1 fun _ s2 hs2 => ?_
    exact hrefuse (Quiet.whenever replying_vsfLogClearEntry) hs2
  rw [wp_bind]
  refine Calm.wp (calm_activateNoblock hk _) hs1.running fun _ s2 h2 _ => ?_
  have hs2 : Settled cfg base may (s2.core φ) := h2 ▸ hs1
  refine wp_ite.mpr ⟨fun _ => hrefuse (replying_write hk _ _) hs2, fun _ => ?_⟩
  rw [wp_bind]
  refine Calm.wp (Quiet.whenever (calm_lseekTo hk _ _)) hs2.running fun _ s3 h3 _ => ?_
  have h31 : s3.core φ = s.core φ := h3.trans (h2.trans h1)
  dsimp only
  refine wp_ite.mpr ⟨fun _ => wp_die.mpr (answerable_die _ _ _ _ (by decide)), fun _ => ?_⟩
  rw [wp_bind]
  refine getRemoteTransferFd_attached hk hs hactive h31 fun remoteFd s4 h4 => ?_
  rw [wp_bind]
  refine retrTransfer_wp hk hs.toReady h4 fun s5 h5 => ?_
  exact portPasvCleanup_settled hk (hs.toReady.congr h5) fun s6 _ hs6 => closeFile_settled hk hs6

theorem serves_handleRetr (hk : KeepsFs k φ) (hs : Settled cfg base may (start.core φ))
    (hlog : start.session.logType = none) : Serves cfg k base φ may start (handleRetr cfg k) := by
  rw [Serves, handleRetr, wp_bind, wp_getSess]
  dsimp only
  rw [wp_bind]
  refine note_wp (φ := φ) rfl fun s1 h1 _ hsess1 => ?_
  have hs1 : Settled cfg base may (s1.core φ) := hs.congr h1
  rw [wp_bind]
  refine dataTransferChecksOk_wp hk hs1 fun ok s2 h2 hok => ?_
  have hs2 : Settled cfg base may (s2.core φ) := h2 ▸ hs1
  refine wp_ite.mpr ⟨fun _ => wp_pure.mpr hs2, fun hactive => wp_ite.mpr ⟨fun _ => ?_, fun _ => ?_⟩⟩
  · exact (replying_write hk _ _).settled hs2 fun _ _ hs' => hs'
  have hactive2 : Active cfg (s2.core φ) := h2 ▸ (hok (by simpa using hactive)).1
  have hlog2 : s2.session.logType = none := by
    have hsteady : s2.session.steady.logType = s1.session.steady.logType :=
      congrArg (fun c => c.steady.logType) h2
    calc s2.session.logType = s1.session.logType := hsteady
      _ = start.session.logType := by rw [hsess1]
      _ = none := hlog
  rw [wp_bind]
  refine resolveArg_wp (φ := φ) fun s3 h3 _ hsess3 => ?_
  have hlog3 : s3.session.logType = none := by
    rw [hsess3]
    exact hlog2
  rw [wp_bind]
  refine vsfLogStartEntry_wp (φ := φ) hlog3 fun s4 h4 _ _ => ?_
  rw [wp_bind]
  refine logArg_wp (φ := φ) fun s5 h5 _ _ => ?_
  have hout : s5.outline φ = s2.outline φ := h5.trans (h4.trans h3)
  have hs5 : Settled cfg base may (s5.core φ) := hs2.congr hout
  have hactive5 : Active cfg (s5.core φ) := hactive2.congr hout
  rw [wp_bind, wp_get]
  refine wp_ite.mpr ⟨fun _ => ?_, fun hallowed => ?_⟩
  · exact (replying_noPermission hk).settled hs5 fun _ _ hs' => hs'
  have hcheck : checkFile cfg k s5 s5.session.ftpArgStr = true :=
    eq_true_of_not fun hdenied => hallowed (.inl hdenied)
  rw [wp_bind]
  refine openFile_wp hs5 ⟨hcheck, trivial, fun hwrites => absurd rfl hwrites⟩
    (fun s6 hs6 => ?_) fun fd s6 _ h6 hfd => ?_
  · refine wp_ite.mpr ⟨fun _ => ?_, fun hpos => absurd (by decide) hpos⟩
    exact (replying_write hk _ _).settled hs6 fun _ _ hs' => hs'
  · refine wp_ite.mpr ⟨fun hneg => absurd hfd (Int.not_le.mpr hneg), fun _ => ?_⟩
    apply retrOpened_wp hk
    · rw [h6]
      exact hs5.withFile _ _ _
    · rw [h6]
      exact hactive5.withFile _ _ _

/-! ### LIST, NLST and STAT -/

theorem strOpendir_wp {path : Bytes} {Q : Option Fd → State W → Prop} (hk : KeepsFs k φ)
    (hrun : Running cfg base (s.core φ))
    (hq : ∀ dir s', dir.isSome = (k.run (.opendir s.nextFd path) s.world).1 →
      s'.core φ = s.core φ → Q dir s') :
    wp (sessionRequirement cfg k base φ may start) (strOpendir k path) Q s := by
  rw [strOpendir, wp_bind, wp_get, wp_bind, wp_sys]
  refine ⟨hrun.eventOk (issued_of_calm trivial), wp_ite.mpr ⟨fun hopen => ?_, fun hfail => ?_⟩⟩
  · rw [wp_bind, wp_newFd, wp_pure]
    exact hq _ _ hopen.symm (core_run hk (c := .opendir s.nextFd path) trivial s)
  · exact wp_pure.mpr (hq none _ (Bool.eq_false_iff.mpr hfail).symm
      (core_run hk (c := .opendir s.nextFd path) trivial s))

/-- What is opened is what is listed. -/
theorem openListDir_wp {named : Bool} {filter : Bytes}
    {Q : Option Fd × Bytes × Bytes → State W → Prop} (hk : KeepsFs k φ)
    (hrun : Running cfg base (s.core φ))
    (hq : ∀ dir s', s'.core φ = s.core φ →
      Q (dir, listNames named (k.run (.opendir s.nextFd filter) s.world).1 filter) s') :
    wp (sessionRequirement cfg k base φ may start) (openListDir k named filter) Q s := by
  cases named with
  | false =>
      show wp _ (strOpendir k (bytes ".") >>= fun dir => pure (dir, bytes ".", filter)) _ _
      rw [wp_bind]
      exact strOpendir_wp hk hrun fun dir s1 _ h1 => wp_pure.mpr (hq dir s1 h1)
  | true =>
      show wp _ (strOpendir k filter >>= _) _ _
      rw [wp_bind]
      refine strOpendir_wp hk hrun fun dir s1 hopen h1 => ?_
      rw [← hopen] at hq
      cases dir with
      | some fd => exact wp_pure.mpr (hq (some fd) s1 h1)
      | none =>
          show wp _ (strOpendir k (splitDirName filter).1 >>= _) _ _
          rw [wp_bind]
          exact strOpendir_wp hk (h1 ▸ hrun) fun dir s2 _ h2 =>
            wp_pure.mpr (hq dir s2 (h2.trans h1))

/-- What is found readable is an open directory that everyone may read, where that is
required. -/
theorem dirMayBeRead_wp {dir : Option Fd} {Q : Bool → State W → Prop}
    (hq : ∀ readable, (readable = true → s.session.isAnonymous = true →
      cfg.anonWorldReadableOnly = true → ∃ statbuf,
        k.fstat s.world (dir.getD (-1)) = some statbuf ∧ statbuf.readableOther = true) →
      Q readable s) :
    wp (sessionRequirement cfg k base φ may start) (dirMayBeRead cfg k dir) Q s := by
  rw [dirMayBeRead, wp_bind, wp_get]
  cases dir with
  | none => exact wp_pure.mpr (hq false fun hfalse => absurd hfalse (by decide))
  | some fd =>
      refine wp_ite.mpr ⟨fun _ => ?_, fun hfree => wp_pure.mpr (hq true fun _ hanon hworld => ?_)⟩
      · rw [withFstat, wp_bind, wp_get]
        cases hstat : k.fstat s.world fd with
        | none => exact wp_die.mpr (answerable_die _ _ _ _ (by decide))
        | some statbuf => exact wp_pure.mpr (hq _ fun hreadable _ _ => ⟨statbuf, hstat, hreadable⟩)
      · exact absurd ⟨hanon, hworld⟩ hfree

theorem calm_closeListDir (hk : KeepsFs k φ) (dir : Option Fd) :
    Calm cfg k φ (closeListDir k dir) := by
  cases dir with
  | none => exact Quiet.pure ()
  | some fd =>
      exact Quiet.bind (calm_sys hk trivial) fun _ =>
        Quiet.ite (Quiet.pure ()) (calm_die _ (by decide))

/-- A listing on its way: what was asked for, of which client, and the file system as the
command found it. -/
structure Asked (cfg : Tunables) (k : Kernel W) (base : VsfSession) (φ : W → X)
    (start s : State W) (names : Bytes × Bytes) (option : Bytes) (fullDetails : Bool) : Prop where
  request : ListRequest cfg k φ start names.1 option names.2 fullDetails
  isAnonymous : s.session.isAnonymous = base.isAnonymous
  fs : φ s.world = φ start.world

theorem Asked.congr {s' : State W} {names : Bytes × Bytes} {option : Bytes} {fullDetails : Bool}
    (h : Asked cfg k base φ start s names option fullDetails)
    (hsteady : (s'.core φ).steady = (s.core φ).steady) (hfs : (s'.core φ).fs = (s.core φ).fs) :
    Asked cfg k base φ start s' names option fullDetails where
  request := h.request
  isAnonymous := (congrArg VsfSession.isAnonymous hsteady).trans h.isAnonymous
  fs := hfs.trans h.fs

theorem listDir_wp {dir : Option Fd} {names : Bytes × Bytes} {option : Bytes}
    {fullDetails isControl : Bool} {Q : Bool × Int → State W → Prop} (hk : KeepsFs k φ)
    (hrun : Running cfg base (s.core φ)) (hfd : isControl = false → (s.core φ).dataFd ≠ -1)
    (hasked : Asked cfg k base φ start s names option fullDetails)
    (hq : ∀ ret s', s'.core φ = s.core φ → Q ret s') :
    wp (sessionRequirement cfg k base φ may start)
      (listDir cfg k dir names option fullDetails isControl) Q s := by
  rw [listDir, wp_bind]
  refine dirMayBeRead_wp fun readable hreadable => ?_
  refine wp_ite.mpr ⟨fun htrue => ?_, fun _ => wp_pure.mpr (hq _ s rfl)⟩
  have hlists : ListsFor cfg k base φ start s (dir.getD (-1)) names.1 option names.2 fullDetails :=
    { hasked.request with
      fs := hasked.fs
      readable := fun hanon => hreadable htrue (hasked.isAnonymous.trans hanon) }
  rw [wp_bind]
  exact transferDir_wp hk hrun hfd hlists fun _ s1 h1 => wp_pure.mpr (hq _ s1 h1)

theorem dirTransfer_wp {dir : Option Fd} {names : Bytes × Bytes} {option : Bytes}
    {fullDetails : Bool} {Q : Unit → State W → Prop} (hk : KeepsFs k φ)
    (hs : Settled cfg base may (s.core φ)) (hactive : Active cfg (s.core φ))
    (hasked : Asked cfg k base φ start s names option fullDetails)
    (hq : ∀ s', s'.outline φ = s.outline φ → Q () s') :
    wp (sessionRequirement cfg k base φ may start)
      (dirTransfer cfg k dir names option fullDetails) Q s := by
  rw [dirTransfer, wp_bind]
  refine getRemoteTransferFd_attached hk hs hactive rfl fun remoteFd s1 h1 => ?_
  rcases h1 with ⟨hneg, h1⟩ | ⟨sock, hconn, h1⟩
  · exact wp_ite.mpr ⟨fun _ => wp_pure.mpr (hq s1 (congrArg Core.outline h1)),
      fun hnonneg => absurd hneg hnonneg⟩
  refine wp_ite.mpr ⟨fun hneg => absurd hconn.nonneg (Int.not_le.mpr hneg), fun _ => ?_⟩
  rw [wp_bind]
  have hfd1 : (s1.core φ).dataFd ≠ -1 := by
    rw [h1]
    exact hconn.ne
  have hasked1 : Asked cfg k base φ start s1 names option fullDetails := by
    apply hasked.congr
    · rw [h1]
      rfl
    · rw [h1]
      rfl
  refine listDir_wp hk (h1 ▸ hconn.running hs.toIdle) (fun _ => hfd1) hasked1
    fun listed s2 h2 => ?_
  rw [wp_bind]
  refine dispose_wp hk hs.toDetached hs.toIdle hconn (h2.trans h1) fun disposed s3 h3 => ?_
  have hreply : Replying cfg k φ (do
      replyListing cfg k (if !disposed ∧ listed.2 = 0 then -1 else listed.2) listed.1
      checkAbor cfg k) :=
    Quiet.bind (replying_replyListing hk _ _) fun _ => replying_checkAbor hk
  exact Replying.wp hreply (h3 ▸ hs.running) fun _ s4 h4 =>
    hq s4 (h4.trans (congrArg Core.outline h3))

theorem dirStatus_wp {dir : Option Fd} {names : Bytes × Bytes} {option : Bytes}
    {fullDetails : Bool} {Q : Unit → State W → Prop} (hk : KeepsFs k φ)
    (hs : Settled cfg base may (s.core φ))
    (hasked : Asked cfg k base φ start s names (option ++ bytes "a") fullDetails)
    (hq : ∀ s', s'.outline φ = s.outline φ → Q () s') :
    wp (sessionRequirement cfg k base φ may start)
      (dirStatus cfg k dir names option fullDetails) Q s := by
  rw [dirStatus, wp_bind]
  refine Calm.wp (calm_vsfCmdioWriteHyphen hk _ _) hs.running fun _ s1 h1 _ => ?_
  rw [wp_bind]
  refine listDir_wp hk (h1 ▸ hs.running) (fun hfalse => absurd hfalse (by decide))
    (hasked.congr (congrArg Core.steady h1) (congrArg Core.fs h1)) fun _ s2 h2 => ?_
  have hreply : Replying cfg k φ (do
      vsfCmdioWrite cfg k 213 "End of status"
      checkAbor cfg k) :=
    Quiet.bind (replying_write hk _ _) fun _ => replying_checkAbor hk
  exact Replying.wp hreply (h2.trans h1 ▸ hs.running) fun _ s3 h3 =>
    hq s3 (h3.trans (congrArg Core.outline (h2.trans h1)))

theorem listFilter_settled {named : Bool} {option filter : Bytes} {fullDetails statCmd : Bool}
    (hk : KeepsFs k φ) (hs : Settled cfg base may (s.core φ))
    (hactive : statCmd = false → Active cfg (s.core φ))
    (hasked : Asked cfg k base φ start s
      (listNames named (k.run (.opendir s.nextFd filter) s.world).1 filter)
      (option ++ if statCmd then bytes "a" else []) fullDetails) :
    wp (sessionRequirement cfg k base φ may start)
      (listFilter cfg k named option filter fullDetails statCmd)
      (fun _ s' => Settled cfg base may (s'.core φ)) s := by
  rw [listFilter, wp_bind]
  refine openListDir_wp hk hs.running fun dir s1 h1 => ?_
  have hs1 : Settled cfg base may (s1.core φ) := h1 ▸ hs
  have hasked1 := hasked.congr (congrArg Core.steady h1) (congrArg Core.fs h1)
  refine wp_ite.mpr ⟨fun hstat => ?_, fun hstat => ?_⟩
  · rw [if_pos hstat] at hasked1
    rw [wp_bind]
    refine dirStatus_wp hk hs1 hasked1 fun s2 h2 => ?_
    have hs2 := hs1.congr h2
    exact Calm.wp (calm_closeListDir hk _) hs2.running fun _ s3 h3 _ => h3 ▸ hs2
  · rw [if_neg hstat, List.append_nil] at hasked1
    rw [wp_bind]
    refine dirTransfer_wp hk hs1 (h1 ▸ hactive (Bool.eq_false_iff.mpr hstat)) hasked1
      fun s2 h2 => ?_
    have hs2 := hs1.congr h2
    rw [wp_bind]
    refine Calm.wp (calm_closeListDir hk _) hs2.running fun _ s3 h3 _ => ?_
    have hready3 : Ready cfg base (s3.core φ) := h3 ▸ hs2.toReady
    refine portPasvCleanup_wp hk hready3 fun s4 h4 => ?_
    rw [h4, Core.setPort_setListener]
    exact hready3.cleared_settled

/-- STAT makes no checks and needs no endpoint. -/
theorem listChecksOk_wp {statCmd : Bool} {Q : Bool → State W → Prop} (hk : KeepsFs k φ)
    (hs : Settled cfg base may (s.core φ))
    (hq : ∀ ok s', s'.core φ = s.core φ →
      (ok = true → statCmd = false → Active cfg (s.core φ)) → Q ok s') :
    wp (sessionRequirement cfg k base φ may start) (listChecksOk cfg k statCmd) Q s := by
  refine wp_ite.mpr ⟨fun hstat => wp_pure.mpr (hq true s rfl fun _ hdata => ?_), fun _ => ?_⟩
  · exact absurd (hstat.symm.trans hdata) (by decide)
  · exact dataTransferChecksOk_wp hk hs fun ok s' h' hok => hq ok s' h' fun htrue _ => (hok htrue).1

theorem serves_handleDirCommon (hk : KeepsFs k φ) (hs : Settled cfg base may (start.core φ))
    {fullDetails statCmd : Bool} (hcommand : Runs cfg start (listCommand fullDetails statCmd))
    (hdetails : statCmd = true → fullDetails = true) :
    Serves cfg k base φ may start (handleDirCommon cfg k fullDetails statCmd) := by
  rw [Serves, handleDirCommon, wp_bind]
  refine listChecksOk_wp hk hs fun ok s1 h1 hok => ?_
  have hs1 : Settled cfg base may (s1.core φ) := h1 ▸ hs
  refine wp_ite.mpr ⟨fun _ => wp_pure.mpr hs1, fun hpass => ?_⟩
  rw [wp_bind, wp_get]
  dsimp only
  refine wp_ite.mpr ⟨fun _ => ?_, fun hallowed => ?_⟩
  · exact (replying_noPermission hk).settled hs1 fun _ _ hs' => hs'
  have hsteady : s1.session.steady = start.session.steady := congrArg Core.steady h1
  have harg : s1.session.steady.ftpArgStr = start.session.steady.ftpArgStr :=
    congrArg VsfSession.ftpArgStr hsteady
  have hhome : s1.session.steady.homeStr = start.session.steady.homeStr :=
    congrArg VsfSession.homeStr hsteady
  change s1.session.ftpArgStr = start.session.ftpArgStr at harg
  change s1.session.homeStr = start.session.homeStr at hhome
  have hgiven : resolveName cfg k s1 (splitListArg s1.session.ftpArgStr).2 =
      listNameAt cfg k start s1.world := by
    unfold listNameAt resolveName
    rw [harg, hhome]
  rw [hgiven, harg] at hallowed ⊢
  have hfs : φ s1.world = φ start.world := congrArg Core.fs h1
  have hcheck (hnamed : givesName start = true) :
      vsfAccessCheckFile (k.pathEnv s1.world) cfg.denyFile (listNameAt cfg k start s1.world) =
        true :=
    eq_true_of_not fun hdenied => hallowed ⟨hnamed, hdenied⟩
  apply listFilter_settled hk hs1 fun hdata => h1 ▸ hok (by simpa using hpass) hdata
  exact
    { request :=
        { command := ⟨statCmd, hcommand, hdetails, rfl⟩
          named := ⟨s1.world, s1.nextFd, hfs, hcheck, rfl⟩ }
      isAnonymous := hs1.isAnonymous
      fs := hfs }

end Vsftpd.Session
