import Vsftpd.Session.Outline

/-!
# Commands without a transfer

Every handler that only replies, looks at a file or makes one change to the file
system runs from a settled state to a settled state.
-/

namespace Vsftpd.Session

open Vsftpd.Lib

variable {W X α : Type} {cfg : Tunables} {k : Kernel W} {base : VsfSession} {φ : W → X}
  {may : SockAddr → Prop} {start s : State W}

/-- A command that begins in `start` makes only calls that are in order, and leaves a
settled state. -/
def Serves (cfg : Tunables) (k : Kernel W) (base : VsfSession) (φ : W → X)
    (may : SockAddr → Prop) (start : State W) (m : M W Unit) : Prop :=
  wp (sessionRequirement cfg k base φ may start) m
    (fun _ s => Settled cfg base may (s.core φ)) start

theorem Replying.serves {m : M W Unit} (h : Replying cfg k φ m)
    (hs : Settled cfg base may (start.core φ)) :
    Serves cfg k base φ may start m :=
  h.settled hs fun _ _ hs' => hs'

/-! ## Commands that reply -/

theorem replying_handlePwd (hk : KeepsFs k φ) : Replying cfg k φ (handlePwd cfg k) :=
  Quiet.bind Quiet.get fun _ => replying_writeStr hk _ _

/-- A conversion that fails where the text cannot be measured. -/
theorem replying_conversion {x : Except String α}
    (h : ∀ text, x = .error text → text = "string suspiciously long") :
    Replying cfg k φ (orDie x : M W α) :=
  (calm_orDie (strlen_lockstep h)).replying

theorem replying_handleRest (hk : KeepsFs k φ) : Replying cfg k φ (handleRest cfg k) :=
  Quiet.bind (calm_getSess _).replying fun _ =>
    Quiet.bind (replying_conversion fun _ => aToFilesizeT_error) fun _ =>
      Quiet.bind (Quiet.modify fun _ => rfl) fun _ => replying_writeStr hk _ _

theorem replying_withSize {statbuf : Statbuf} {f : Int → M W α}
    (hf : ∀ size, Replying cfg k φ (f size)) : Replying cfg k φ (withSize statbuf f) :=
  Quiet.ite (calm_die _ (by decide)).replying (hf _)

theorem replying_handleSize (hk : KeepsFs k φ) : Replying cfg k φ (handleSize cfg k) := by
  refine Quiet.bind replying_resolveArg fun _ => Quiet.bind Quiet.get fun s =>
    Quiet.ite (replying_noPermission hk) ?_
  match k.stat s.world s.session.ftpArgStr with
  | none => exact replying_write hk _ _
  | some statbuf =>
      exact Quiet.ite (replying_write hk _ _)
        (replying_withSize fun _ => replying_writeStr hk _ _)

theorem replying_handleType (hk : KeepsFs k φ) : Replying cfg k φ (handleType cfg k) := by
  refine Quiet.bind (calm_getSess _).replying fun _ => Quiet.bind (Quiet.modify fun _ => rfl)
    fun _ => Quiet.ite ?_ (Quiet.ite ?_ (replying_write hk _ _))
  · exact Quiet.bind (Quiet.modify fun _ => rfl) fun _ => replying_write hk _ _
  · exact Quiet.bind (Quiet.modify fun _ => rfl) fun _ => replying_write hk _ _

theorem replying_handleOnlyArg (hk : KeepsFs k φ) (arg ok bad : String) :
    Replying cfg k φ (handleOnlyArg cfg k arg ok bad) :=
  Quiet.bind (calm_getSess _).replying fun _ => Quiet.bind (Quiet.modify fun _ => rfl) fun _ =>
    Quiet.ite (replying_write hk _ _) (replying_write hk _ _)

theorem replying_handleOpts (hk : KeepsFs k φ) : Replying cfg k φ (handleOpts cfg k) :=
  Quiet.bind (calm_getSess _).replying fun _ => Quiet.bind (Quiet.modify fun _ => rfl) fun _ =>
    Quiet.ite (replying_write hk _ _) (replying_write hk _ _)

theorem replying_handlePbsz (hk : KeepsFs k φ) : Replying cfg k φ (handlePbsz cfg k) :=
  Quiet.bind (calm_getSess _).replying fun _ =>
    Quiet.ite (replying_write hk _ _) (replying_write hk _ _)

theorem replying_handleProt (hk : KeepsFs k φ) : Replying cfg k φ (handleProt cfg k) := by
  refine Quiet.bind (calm_getSess _).replying fun _ => Quiet.bind (Quiet.modify fun _ => rfl)
    fun _ => Quiet.ite (replying_write hk _ _) (Quiet.ite ?_ (Quiet.ite ?_ ?_))
  · exact Quiet.bind (Quiet.modify fun _ => rfl) fun _ => replying_write hk _ _
  · exact Quiet.bind (Quiet.modify fun _ => rfl) fun _ => replying_write hk _ _
  · exact Quiet.ite (replying_write hk _ _) (replying_write hk _ _)

theorem replying_handleLoggedInUser (hk : KeepsFs k φ) :
    Replying cfg k φ (handleLoggedInUser cfg k) :=
  Quiet.bind (calm_getSess _).replying fun _ => Quiet.ite (replying_write hk _ _)
    (Quiet.ite (replying_write hk _ _) (replying_write hk _ _))

/-- The texts of several lines. -/
theorem replying_lines (hk : KeepsFs k φ) (status : FtpCode) (first : Bytes)
    (lines : List (Bool × Bytes)) (last : String) :
    Replying cfg k φ (do
      vsfCmdioWriteHyphen cfg k status first
      writeRawLines cfg k lines
      vsfCmdioWrite cfg k status last) :=
  Quiet.bind (calm_vsfCmdioWriteHyphen hk _ _).replying fun _ =>
    Quiet.bind (calm_writeRawLines hk _).replying fun _ => replying_write hk _ _

theorem replying_handleStat (hk : KeepsFs k φ) : Replying cfg k φ (handleStat cfg k) :=
  Quiet.bind (calm_vsfCmdioWriteHyphen hk _ _).replying fun _ =>
    Quiet.bind (calm_getSess _).replying fun _ =>
      Quiet.bind (calm_writeRawLines hk _).replying fun _ => replying_write hk _ _

theorem replying_handleSiteUmask (hk : KeepsFs k φ) (arg : Bytes) :
    Replying cfg k φ (handleSiteUmask cfg k arg) := by
  refine Quiet.bind Quiet.get fun _ => Quiet.ite (replying_writeStr hk _ _) ?_
  refine Quiet.bind (replying_conversion fun _ => octalToUint_error) fun _ => ?_
  exact Quiet.bind (Quiet.modify fun _ => rfl) fun _ => replying_writeStr hk _ _

theorem replying_mdtmGet (hk : KeepsFs k φ) (statbuf : Option Statbuf) :
    Replying cfg k φ (mdtmGet cfg k statbuf) := by
  match statbuf with
  | none => exact replying_write hk _ _
  | some statbuf =>
      refine Quiet.ite (replying_write hk _ _) ?_
      match k.numericDate statbuf.mtime cfg.useLocaltime with
      | none => exact (calm_die _ (by decide)).replying
      | some date => exact replying_writeStr hk _ _

theorem rnfrFailed_settled (hk : KeepsFs k φ) (hs : Settled cfg base may (s.core φ))
    (hlog : s.session.logType = none) (text : String) :
    wp (sessionRequirement cfg k base φ may start) (rnfrFailed cfg k text)
      (fun _ s' => Settled cfg base may (s'.core φ)) s := by
  rw [rnfrFailed, wp_bind]
  refine vsfLogStartEntry_wp (φ := φ) hlog fun s1 h1 _ _ => ?_
  exact Replying.settled (Quiet.bind replying_logArg fun _ => replying_write hk _ _)
    (hs.congr h1) fun _ _ hs' => hs'

theorem serves_handleRnfr (hk : KeepsFs k φ) (hs : Settled cfg base may (start.core φ))
    (hlog : start.session.logType = none) : Serves cfg k base φ may start (handleRnfr cfg k) := by
  rw [Serves, handleRnfr, wp_bind]
  refine note_wp (φ := φ) rfl fun s1 h1 _ hsess1 => ?_
  rw [wp_bind]
  refine resolveArg_wp (φ := φ) fun s2 h2 _ hsess2 => ?_
  have hs2 : Settled cfg base may (s2.core φ) := hs.congr (h2.trans h1)
  have hlog2 : s2.session.logType = none := by
    rw [hsess2, hsess1]
    exact hlog
  rw [wp_bind, wp_get]
  refine wp_ite.mpr ⟨fun _ => ?_, fun _ => wp_ite.mpr ⟨fun _ => ?_, fun _ => ?_⟩⟩
  · exact rnfrFailed_settled hk hs2 hlog2 _
  · exact Replying.settled (Quiet.bind (Quiet.modify fun _ => rfl) fun _ => replying_write hk _ _)
      hs2 fun _ _ hs' => hs'
  · exact rnfrFailed_settled hk hs2 hlog2 _

/-! ## Commands that change the file system -/

/-- What is left of a test `!b` that failed. -/
theorem eq_true_of_not {b : Bool} (h : ¬ (!b) = true) : b = true := by
  simpa using h

/-- A call that is in order, from a settled state. -/
theorem fsCall_wp {c : Syscall} {Q : Answer c → State W → Prop}
    (hs : Settled cfg base may (s.core φ)) (hissued : Issued cfg k base φ start ⟨c, s⟩)
    (hq : ∀ a s', Settled cfg base may (s'.core φ) → Q a s') :
    wp (sessionRequirement cfg k base φ may start) (sys k c) Q s :=
  wp_sys.mpr ⟨hs.running.eventOk hissued, hq _ _ { hs with }⟩

/-- A call and the report of its outcome. -/
theorem fsOperation_wp {c : Syscall} {m : Answer c → M W Unit}
    (hs : Settled cfg base may (s.core φ))
    (hissued : Issued cfg k base φ start ⟨c, s⟩) (hm : ∀ a, Replying cfg k φ (m a)) :
    wp (sessionRequirement cfg k base φ may start)
      (do
        let ok ← sys k c
        m ok)
      (fun _ s' => Settled cfg base may (s'.core φ)) s := by
  rw [wp_bind]
  exact fsCall_wp hs hissued fun a s1 h1 => (hm a).settled h1 fun _ _ hs' => hs'

theorem serves_withCheckedArg {what : LogEntryType} {act : Bytes → M W Unit} (hk : KeepsFs k φ)
    (hs : Settled cfg base may (start.core φ)) (hlog : start.session.logType = none)
    (hact : ∀ path s, Settled cfg base may (s.core φ) → checkFile cfg k s path = true →
      wp (sessionRequirement cfg k base φ may start) (act path)
        (fun _ s' => Settled cfg base may (s'.core φ)) s) :
    Serves cfg k base φ may start (withCheckedArg cfg k what act) := by
  rw [Serves, withCheckedArg, wp_bind]
  refine resolveArg_wp (φ := φ) fun s1 h1 _ hsess1 => ?_
  have hlog1 : s1.session.logType = none := by
    rw [hsess1]
    exact hlog
  rw [wp_bind]
  refine vsfLogStartEntry_wp (φ := φ) hlog1 fun s2 h2 _ _ => ?_
  rw [wp_bind]
  refine logArg_wp (φ := φ) fun s3 h3 _ _ => ?_
  have hs3 : Settled cfg base may (s3.core φ) := hs.congr (h3.trans (h2.trans h1))
  rw [wp_bind, wp_get]
  refine wp_ite.mpr ⟨fun _ => ?_, fun hallowed => ?_⟩
  · exact (replying_noPermission hk).settled hs3 fun _ _ hs' => hs'
  · exact hact _ s3 hs3 (eq_true_of_not hallowed)

theorem serves_handleMkd (hk : KeepsFs k φ) (hs : Settled cfg base may (start.core φ))
    (hlog : start.session.logType = none)
    (hgate : WriteGate cfg base cfg.anonMkdirWriteEnable) :
    Serves cfg k base φ may start (handleMkd cfg k) := by
  refine serves_withCheckedArg hk hs hlog fun path s hs' hallowed => ?_
  refine fsOperation_wp hs' ⟨hallowed, hgate⟩ fun ok => Quiet.ite ?_ (replying_write hk _ _)
  exact Quiet.bind (replying_vsfLogDoLog hk _) fun _ => Quiet.bind Quiet.get fun _ =>
    replying_writeStr hk _ _

theorem serves_handleRmd (hk : KeepsFs k φ) (hs : Settled cfg base may (start.core φ))
    (hlog : start.session.logType = none)
    (hgate : WriteGate cfg base cfg.anonOtherWriteEnable) :
    Serves cfg k base φ may start (handleRmd cfg k) :=
  serves_withCheckedArg hk hs hlog fun _ _ hs' hallowed =>
    fsOperation_wp hs' ⟨hallowed, hgate⟩ fun _ => replying_reportOperation hk _ _ _ _

theorem serves_handleDele (hk : KeepsFs k φ) (hs : Settled cfg base may (start.core φ))
    (hlog : start.session.logType = none)
    (hgate : WriteGate cfg base cfg.anonOtherWriteEnable) :
    Serves cfg k base φ may start (handleDele cfg k) :=
  serves_withCheckedArg hk hs hlog fun _ _ hs' hallowed =>
    fsOperation_wp hs' (.inl ⟨hallowed, hgate⟩) fun _ => replying_reportOperation hk _ _ _ _

/-- The source of the renaming is the name that an earlier RNFR left. -/
theorem serves_handleRnto (hk : KeepsFs k φ) (hs : Settled cfg base may (start.core φ))
    (hlog : start.session.logType = none) (hcmd : Runs cfg start .rnto)
    (hgate : WriteGate cfg base cfg.anonOtherWriteEnable) :
    Serves cfg k base φ may start (handleRnto cfg k) := by
  rw [Serves, handleRnto, wp_bind, wp_getSess]
  refine wp_ite.mpr ⟨fun _ => ?_, fun hnonempty => ?_⟩
  · exact (replying_write hk _ _).settled hs fun _ _ hs' => hs'
  have hstored : start.session.rnfrFilenameStr ≠ [] := fun hempty =>
    hnonempty (List.isEmpty_iff.mpr hempty)
  rw [wp_bind]
  refine resolveArg_wp (φ := φ) fun s1 h1 _ hsess1 => ?_
  have hlog1 : s1.session.logType = none := by
    rw [hsess1]
    exact hlog
  rw [wp_bind]
  refine vsfLogStartEntry_wp (φ := φ) hlog1 fun s2 h2 _ hsess2 => ?_
  rw [wp_bind, wp_get, wp_bind]
  refine note_wp (φ := φ) rfl fun s3 h3 hworld3 _ => ?_
  have hout : s3.outline φ = start.outline φ := h3.trans (h2.trans h1)
  have hsrc : s2.session.rnfrFilenameStr = start.session.rnfrFilenameStr := by
    rw [hsess2, hsess1]
  have hdst : s2.session.ftpArgStr = resolveName cfg k start start.session.ftpArgStr := by
    rw [hsess2, hsess1]
  refine wp_ite.mpr ⟨fun _ => ?_, fun hallowed => ?_⟩
  · exact (replying_noPermission hk).settled (hs.congr hout) fun _ _ hs' => hs'
  · have hcheck : checkFile cfg k s3 s2.session.ftpArgStr = true := by
      rw [checkFile, hworld3]
      exact eq_true_of_not hallowed
    have hfs : φ s3.world = φ start.world := congrArg Core.fs hout
    rw [wp_bind]
    refine fsCall_wp (hs.congr hout)
      ⟨hcheck, hgate, hcmd, hsrc, hsrc ▸ hstored, hdst, hfs⟩ fun ok s4 hs4 => ?_
    exact Replying.settled (Quiet.bind (Quiet.modify fun _ => rfl) fun _ =>
      replying_reportOperation hk _ _ _ _) hs4 fun _ _ hs' => hs'

theorem handleCwd_wp (hk : KeepsFs k φ) (hs : Settled cfg base may (s.core φ)) :
    wp (sessionRequirement cfg k base φ may start) (handleCwd cfg k)
      (fun _ s' => Settled cfg base may (s'.core φ)) s := by
  rw [handleCwd, wp_bind]
  refine resolveArg_wp (φ := φ) fun s1 h1 _ _ => ?_
  have hs1 : Settled cfg base may (s1.core φ) := hs.congr h1
  rw [wp_bind, wp_get]
  refine wp_ite.mpr ⟨fun _ => ?_, fun hallowed => ?_⟩
  · exact (replying_noPermission hk).settled hs1 fun _ _ hs' => hs'
  · refine fsOperation_wp hs1 (eq_true_of_not hallowed) fun ok => Quiet.ite ?_ ?_
    · exact Quiet.bind (replying_vsfBannerDirChanged hk _) fun _ => replying_write hk _ _
    · exact replying_write hk _ _

theorem serves_handleCwd (hk : KeepsFs k φ) (hs : Settled cfg base may (start.core φ)) :
    Serves cfg k base φ may start (handleCwd cfg k) :=
  handleCwd_wp hk hs

theorem serves_handleCdup (hk : KeepsFs k φ) (hs : Settled cfg base may (start.core φ)) :
    Serves cfg k base φ may start (handleCdup cfg k) := by
  rw [Serves, handleCdup, wp_bind]
  exact note_wp (φ := φ) rfl fun s1 h1 _ _ => handleCwd_wp hk (hs.congr h1)

/-! ### SITE -/

theorem chmodNamed_wp (hk : KeepsFs k φ) (hs : Settled cfg base may (s.core φ))
    (hlog : s.session.logType = none) (hwrite : cfg.writeEnable = true)
    (hchmod : cfg.chmodEnable = true) (hanon : base.isAnonymous = false) (perms file : Bytes) :
    wp (sessionRequirement cfg k base φ may start) (chmodNamed cfg k perms file)
      (fun _ s' => Settled cfg base may (s'.core φ)) s := by
  rw [chmodNamed, wp_bind]
  refine vsfLogStartEntry_wp (φ := φ) hlog fun s1 h1 _ _ => ?_
  rw [wp_bind, wp_get, wp_bind]
  refine note_wp (φ := φ) rfl fun s2 h2 hworld2 _ => ?_
  have hs2 : Settled cfg base may (s2.core φ) := hs.congr (h2.trans h1)
  refine wp_ite.mpr ⟨fun _ => ?_, fun hallowed => ?_⟩
  · exact (replying_noPermission hk).settled hs2 fun _ _ hs' => hs'
  · have hcheck : checkFile cfg k s2 file = true := by
      rw [checkFile, hworld2]
      exact eq_true_of_not hallowed
    rw [wp_bind]
    refine wp_orDie (fun mode _ => ?_) fun text htext => ?_
    · exact fsOperation_wp hs2 ⟨hcheck, hwrite, hchmod, hanon⟩ fun ok =>
        replying_reportOperation hk _ _ _ _
    · exact answerable_die _ _ _ _ (strlen_lockstep (fun _ => octalToUint_error) text htext)

theorem serves_handleSite (hk : KeepsFs k φ) (hs : Settled cfg base may (start.core φ))
    (hlog : start.session.logType = none) (hanon : base.isAnonymous = false) :
    Serves cfg k base φ may start (handleSite cfg k) := by
  rw [Serves, handleSite, wp_bind, wp_getSess]
  dsimp only
  rw [wp_bind]
  refine note_wp (φ := φ) rfl fun s1 h1 _ hsess1 => ?_
  have hs1 : Settled cfg base may (s1.core φ) := hs.congr h1
  have hlog1 : s1.session.logType = none := by
    rw [hsess1]
    exact hlog
  refine wp_ite.mpr ⟨fun hchmod => ?_, fun _ => wp_ite.mpr ⟨fun _ => ?_, fun _ => ?_⟩⟩
  · rw [handleSiteChmod, wp_bind, wp_get]
    refine wp_ite.mpr ⟨fun _ => ?_, fun _ => ?_⟩
    · exact (replying_write hk _ _).settled hs1 fun _ _ hs' => hs'
    · exact chmodNamed_wp hk hs1 hlog1 hchmod.1 hchmod.2.1 hanon _ _
  · exact (replying_handleSiteUmask hk _).settled hs1 fun _ _ hs' => hs'
  · exact Replying.settled (Quiet.ite (replying_write hk _ _) (replying_write hk _ _)) hs1
      fun _ _ hs' => hs'

/-! ### MDTM -/

theorem mdtmSet_wp (hk : KeepsFs k φ) (hs : Settled cfg base may (s.core φ)) {path : Bytes}
    (hallowed : checkFile cfg k s path = true)
    (hgate : WriteGate cfg base cfg.anonOtherWriteEnable) (hmdtm : cfg.mdtmWrite = true)
    (modtime : Int) :
    wp (sessionRequirement cfg k base φ may start) (mdtmSet cfg k path modtime)
      (fun _ s' => Settled cfg base may (s'.core φ)) s := by
  rw [mdtmSet, wp_bind, wp_get]
  cases k.stat s.world path with
  | none => exact (replying_write hk _ _).settled hs fun _ _ hs' => hs'
  | some statbuf =>
      refine wp_ite.mpr ⟨fun _ => ?_, fun _ => ?_⟩
      · exact (replying_write hk _ _).settled hs fun _ _ hs' => hs'
      · exact fsOperation_wp hs ⟨hallowed, hgate, hmdtm⟩ fun ok =>
          Quiet.ite (replying_write hk _ _) (replying_write hk _ _)

theorem mdtmChecked_wp (hk : KeepsFs k φ) (hs : Settled cfg base may (s.core φ)) {doWrite : Bool}
    (hmdtm : doWrite = true → cfg.mdtmWrite = true) (statbuf : Option Statbuf) (modtime : Int) :
    wp (sessionRequirement cfg k base φ may start) (mdtmChecked cfg k doWrite statbuf modtime)
      (fun _ s' => Settled cfg base may (s'.core φ)) s := by
  rw [mdtmChecked, wp_bind]
  refine resolveArg_wp (φ := φ) fun s1 h1 _ _ => ?_
  have hs1 : Settled cfg base may (s1.core φ) := hs.congr h1
  rw [wp_bind, wp_get]
  refine wp_ite.mpr ⟨fun _ => ?_, fun hallowed => wp_ite.mpr ⟨fun hset => ?_, fun _ => ?_⟩⟩
  · exact (replying_noPermission hk).settled hs1 fun _ _ hs' => hs'
  · have hgate : WriteGate cfg base cfg.anonOtherWriteEnable := by
      refine ⟨hset.2.1, fun hanon => hset.2.2.resolve_right fun hnot => ?_⟩
      have hsess : s1.session.isAnonymous = true := hs1.isAnonymous.trans hanon
      rw [hsess] at hnot
      exact absurd hnot (by decide)
    exact mdtmSet_wp hk hs1 (eq_true_of_not hallowed) hgate (hmdtm hset.1) _
  · exact (replying_mdtmGet hk _).settled hs1 fun _ _ hs' => hs'

theorem mdtmWrite_of_doWrite {present : Bool} {arg : Bytes}
    (h : mdtmDoWrite cfg present arg = true) : cfg.mdtmWrite = true := by
  unfold mdtmDoWrite at h
  split at h
  · simp only [Bool.and_eq_true] at h
    exact h.1.1.1
  · exact absurd h Bool.false_ne_true

theorem serves_handleMdtm (hk : KeepsFs k φ) (hs : Settled cfg base may (start.core φ)) :
    Serves cfg k base φ may start (handleMdtm cfg k) := by
  rw [Serves, handleMdtm, wp_bind, wp_get]
  dsimp only
  refine wp_ite.mpr ⟨fun hset => wp_ite.mpr ⟨fun _ => wp_halt.mpr ?_, fun _ => ?_⟩, fun _ => ?_⟩
  · exact ⟨trivial, fun heq => Halt.noConfusion heq⟩
  · rw [wp_bind]
    refine wp_orDie (fun time _ => ?_) fun text htext => ?_
    · rw [wp_bind]
      exact note_wp (φ := φ) rfl fun s1 h1 _ _ =>
        mdtmChecked_wp hk (hs.congr h1) (fun _ => mdtmWrite_of_doWrite hset) _ _
    · exact answerable_die _ _ _ _ (strlen_lockstep (fun _ => parseTime_error) text htext)
  · exact mdtmChecked_wp hk hs (fun hfalse => absurd hfalse Bool.false_ne_true) _ _

end Vsftpd.Session
