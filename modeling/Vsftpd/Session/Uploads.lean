import Vsftpd.Session.Transfers

/-!
# Uploads

STOR, STOU and APPE.  From the opening of the file to the end of the command the
descriptor is that of the upload, and names mean what they meant after the opening.
-/

namespace Vsftpd.Session

open Vsftpd.Lib

variable {W X α : Type} {cfg : Tunables} {k : Kernel W} {base : VsfSession} {φ : W → X}
  {may : SockAddr → Prop} {start s : State W}

/-! ## The file of an upload -/

theorem IsUpload.congr {s' : State W} {fd : Fd} {f : OpenFile}
    (h : IsUpload cfg k base φ start s fd f) (hout : s'.outline φ = s.outline φ) :
    IsUpload cfg k base φ start s' fd f := by
  obtain ⟨w, hw⟩ := h
  have hfiles : s'.files = s.files := congrArg (fun c => c.files) hout
  have hfs : φ s'.world = φ s.world := congrArg (fun c => c.fs) hout
  have hknown : s'.files fd = some f := by
    rw [hfiles]
    exact hw.known
  exact ⟨w, { hw with known := hknown, after := hfs.trans hw.after }⟩

theorem IsUpload.of_core {s' : State W} {fd : Fd} {f : OpenFile}
    (h : IsUpload cfg k base φ start s fd f) (hcore : s'.core φ = s.core φ) :
    IsUpload cfg k base φ start s' fd f :=
  h.congr (congrArg Core.outline hcore)

/-- A connection does not change what the upload is. -/
theorem IsUpload.attached {s' : State W} {c : Core X} {fd remoteFd : Fd} {f : OpenFile}
    (h : IsUpload cfg k base φ start s fd f) (hs : s.core φ = c)
    (hs' : Attached cfg base φ c remoteFd s') : IsUpload cfg k base φ start s' fd f := by
  obtain ⟨w, hw⟩ := h
  have hsame : s'.files = s.files ∧ φ s'.world = φ s.world := by
    rcases hs' with ⟨-, h'⟩ | ⟨sock, -, h'⟩
    · rw [← hs] at h'
      exact ⟨congrArg Core.files h', congrArg Core.fs h'⟩
    · rw [← hs] at h'
      exact ⟨congrArg Core.files h', congrArg Core.fs h'⟩
  have hknown : s'.files fd = some f := by
    rw [hsame.1]
    exact hw.known
  exact ⟨w, { hw with known := hknown, after := hsame.2.trans hw.after }⟩

/-- The state of an upload: it may still be transferred to, and the file is open. -/
structure Uploading (cfg : Tunables) (k : Kernel W) (base : VsfSession) (φ : W → X)
    (may : SockAddr → Prop) (start : State W) (fd : Fd) (f : OpenFile) (s : State W) : Prop where
  settled : Settled cfg base may (s.core φ)
  active : Active cfg (s.core φ)
  file : IsUpload cfg k base φ start s fd f

theorem Uploading.of_core {s' : State W} {fd : Fd} {f : OpenFile}
    (h : Uploading cfg k base φ may start fd f s) (hcore : s'.core φ = s.core φ) :
    Uploading cfg k base φ may start fd f s' where
  settled := hcore ▸ h.settled
  active := hcore ▸ h.active
  file := h.file.of_core hcore

theorem Uploading.running {fd : Fd} {f : OpenFile} (h : Uploading cfg k base φ may start fd f s) :
    Running cfg base (s.core φ) :=
  h.settled.running

/-- A call on the open file, which has to succeed. -/
theorem uploadCall_wp {c : Syscall} {fd : Fd} {f : OpenFile} {Q : Answer c → State W → Prop}
    (hk : KeepsFs k φ) (hleaves : LeavesFs c) (h : Uploading cfg k base φ may start fd f s)
    (hissued : Issued cfg k base φ start ⟨c, s⟩)
    (hq : ∀ a s', Uploading cfg k base φ may start fd f s' → Q a s') :
    wp (sessionRequirement cfg k base φ may start) (sys k c) Q s :=
  wp_sys.mpr ⟨h.running.eventOk hissued, hq _ _ (h.of_core (core_run hk hleaves s))⟩

theorem Uploading.calm {m : M W α} {fd : Fd} {f : OpenFile} {Q : α → State W → Prop}
    (h : Uploading cfg k base φ may start fd f s) (hm : Calm cfg k φ m)
    (hq : ∀ a s', Uploading cfg k base φ may start fd f s' → Q a s') :
    wp (sessionRequirement cfg k base φ may start) m Q s :=
  hm.wp h.running fun a s' hcore _ => hq a s' (h.of_core hcore)

/-! ## Before the transfer -/

/-- Only for an anonymous session, and with `chown_uploads`. -/
theorem giveAway_wp {fd : Fd} {f : OpenFile} {Q : Unit → State W → Prop} (hk : KeepsFs k φ)
    (h : Uploading cfg k base φ may start fd f s) (hanon : base.isAnonymous = true)
    (hchown : cfg.chownUploads = true)
    (hq : ∀ s', Uploading cfg k base φ may start fd f s' → Q () s') :
    wp (sessionRequirement cfg k base φ may start) (giveAway cfg k fd) Q s := by
  rw [giveAway, wp_bind, vsfSysutilFchmod, wp_bind]
  refine uploadCall_wp hk trivial h ⟨hanon, hchown, f, h.file⟩ fun ok s1 h1 => ?_
  refine wp_ite.mpr ⟨fun _ => wp_pure.mpr ?_, fun _ => ?_⟩
  case refine_2 => exact wp_die.mpr (answerable_die _ _ _ _ (by decide))
  exact chownUpload_wp hk h1.settled.toReady (h.file.givesAway hanon hchown) fun s2 h2 =>
    hq s2 (h1.of_core h2)

theorem truncateUpload_wp {fd : Fd} {f : OpenFile} {Q : Unit → State W → Prop}
    (hk : KeepsFs k φ) (h : Uploading cfg k base φ may start fd f s) (hcreate : f.how = .create)
    (hq : ∀ s', Uploading cfg k base φ may start fd f s' → Q () s') :
    wp (sessionRequirement cfg k base φ may start) (truncateUpload k fd) Q s := by
  rw [truncateUpload, wp_bind, vsfSysutilFtruncate, wp_bind]
  refine uploadCall_wp hk trivial h ⟨f, h.file, hcreate⟩ fun ok s1 h1 => ?_
  refine wp_ite.mpr ⟨fun _ => wp_pure.mpr ?_, fun _ => ?_⟩
  case refine_2 => exact wp_die.mpr (answerable_die _ _ _ _ (by decide))
  exact h1.calm (calm_lseekTo hk _ _) fun _ s2 h2 => hq s2 h2

theorem calm_seekUpload (hk : KeepsFs k φ) (isAppend : Bool) (offset : Int) (fd : Fd) :
    Calm cfg k φ (seekUpload k isAppend offset fd) :=
  Quiet.ite (calm_lseekEnd hk _) (Quiet.ite (calm_lseekTo hk _ _) (Quiet.pure ()))

/-! ## The transfer and after it -/

theorem uploadTransfer_wp {c : Core X} {remoteFd fd : Fd} {f : OpenFile}
    {Q : Bool → State W → Prop} (hk : KeepsFs k φ) (h : Ready cfg base c)
    (hs : Attached cfg base φ c remoteFd s) (hfile : IsUpload cfg k base φ start s fd f)
    (hq : ∀ a s', s'.outline φ = c.outline → Q a s') :
    wp (sessionRequirement cfg k base φ may start) (uploadTransfer cfg k remoteFd fd) Q s := by
  rcases hs with ⟨hneg, hs⟩ | ⟨sock, hconn, hs⟩
  · exact wp_ite.mpr ⟨fun _ => wp_pure.mpr (hq false s (congrArg Core.outline hs)),
      fun hnonneg => absurd hneg hnonneg⟩
  · refine wp_ite.mpr ⟨fun hneg => absurd hconn.nonneg (Int.not_le.mpr hneg), fun _ => ?_⟩
    rw [wp_bind, wp_getSess, wp_bind]
    refine transferFile_wp hk h.toIdle hconn hs (fun _ => ⟨f, hfile⟩) fun ret s1 h1 => ?_
    rw [wp_bind]
    exact finishTransfer_wp hk h hconn (h1.trans hs) fun _ s2 h2 => wp_pure.mpr (hq _ s2 h2)

theorem Core.outline_cleared_files (c : Core X) :
    (c.cleared cfg).outline.files = c.files ∧ (c.cleared cfg).outline.fs = c.fs := by
  unfold Core.cleared Core.setListener
  cases listenerProc cfg <;> exact ⟨rfl, rfl⟩

/-- A failed upload is removed when the configuration asks for it. -/
theorem deleteFailed_wp {name : Bytes} {fd : Fd} {success : Bool}
    (hs : Settled cfg base may (s.core φ)) {f : OpenFile} (hname : f.path = name)
    (hfile : IsUpload cfg k base φ start s fd f) {Q : Unit → State W → Prop}
    (hq : ∀ s', Settled cfg base may (s'.core φ) → Q () s') :
    wp (sessionRequirement cfg k base φ may start)
      (Prog.whenever (cfg.deleteFailedUploads = true ∧ success = false) (do
        let _ ← sys k (.unlink name)
        pure ())) Q s := by
  refine wp_whenever.mpr ⟨fun hdelete => ?_, fun _ => hq s hs⟩
  rw [wp_bind]
  exact fsCall_wp hs (.inr ⟨hdelete.1, fd, f, hfile, hname⟩) fun _ s1 hs1 =>
    wp_pure.mpr (hq s1 hs1)

theorem uploadOpened_settled {isAppend isUnique doTruncate : Bool} {offset : Int} {name : Bytes}
    {fd : Fd} {f : OpenFile} (hk : KeepsFs k φ) (h : Uploading cfg k base φ may start fd f s)
    (hname : f.path = name) (htruncate : doTruncate = true → f.how = .create) :
    wp (sessionRequirement cfg k base φ may start)
      (uploadOpened cfg k isAppend isUnique doTruncate offset name fd)
      (fun _ s' => Settled cfg base may (s'.core φ)) s := by
  refine withFstat_wp fun statbuf => ?_
  rw [wp_bind, wp_getSess, wp_bind]
  refine h.calm (Quiet.whenever (calm_activateNoblock hk _)) fun _ s1 h1 => ?_
  have hanon : s.session.isAnonymous = base.isAnonymous := h.settled.isAnonymous
  have hgiven (Q : Unit → State W → Prop)
      (hq : ∀ s', Uploading cfg k base φ may start fd f s' → Q () s') :
      wp (sessionRequirement cfg k base φ may start)
        (Prog.whenever ((s.sess .session).isAnonymous = true ∧ cfg.chownUploads = true)
          (giveAway cfg k fd)) Q s1 :=
    wp_whenever.mpr ⟨fun hgive => giveAway_wp hk h1 (hanon ▸ hgive.1) hgive.2 hq,
      fun _ => hq s1 h1⟩
  rw [wp_bind]
  refine hgiven _ fun s2 h2 => ?_
  rw [wp_bind]
  refine h2.calm (Quiet.whenever (calm_lockFile hk _ _)) fun _ s3 h3 => ?_
  have htruncated (Q : Unit → State W → Prop)
      (hq : ∀ s', Uploading cfg k base φ may start fd f s' → Q () s') :
      wp (sessionRequirement cfg k base φ may start)
        (Prog.whenever (doTruncate = true) (truncateUpload k fd)) Q s3 :=
    wp_whenever.mpr ⟨fun hdo => truncateUpload_wp hk h3 (htruncate hdo) hq, fun _ => hq s3 h3⟩
  rw [wp_bind]
  refine htruncated _ fun s4 h4 => ?_
  rw [wp_bind]
  refine h4.calm (calm_seekUpload hk _ _ _) fun _ s5 h5 => ?_
  rw [wp_bind]
  refine getRemoteTransferFd_attached hk h5.settled h5.active rfl fun remoteFd s6 h6 => ?_
  rw [wp_bind]
  refine uploadTransfer_wp hk h5.settled.toReady h6 (h5.file.attached rfl h6)
    fun success s7 h7 => ?_
  have hfile7 : IsUpload cfg k base φ start s7 fd f := h5.file.congr h7
  refine portPasvCleanup_settled hk (h5.settled.toReady.congr h7) fun s8 h8 hs8 => ?_
  have hfile8 : IsUpload cfg k base φ start s8 fd f := by
    have hsame : ((s7.core φ).cleared cfg).outline.files = (s7.core φ).files ∧
        ((s7.core φ).cleared cfg).outline.fs = (s7.core φ).fs :=
      (s7.core φ).outline_cleared_files
    obtain ⟨w, hw⟩ := hfile7
    have hfiles : s8.files = s7.files := (congrArg Core.files h8).trans hsame.1
    have hfs : φ s8.world = φ s7.world := (congrArg Core.fs h8).trans hsame.2
    have hknown : s8.files fd = some f := by
      rw [hfiles]
      exact hw.known
    exact ⟨w, { hw with known := hknown, after := hfs.trans hw.after }⟩
  rw [wp_bind]
  exact deleteFailed_wp hs8 hname hfile8 fun s9 hs9 => closeFile_settled hk hs9

/-! ## The command -/

/-- Who may upload: by the tunable for uploads, or, without `STOU`, by the one for
everything else. -/
def UploadGate (cfg : Tunables) (base : VsfSession) (isUnique : Bool) : Prop :=
  WriteGate cfg base cfg.anonUploadEnable ∨
    (isUnique = false ∧ WriteGate cfg base cfg.anonOtherWriteEnable)

theorem UploadGate.exclusive {isUnique : Bool} {sess : VsfSession}
    (h : UploadGate cfg base isUnique) (hanon : sess.isAnonymous = base.isAnonymous)
    (hexclusive : uploadExclusive cfg isUnique sess = true) :
    WriteGate cfg base cfg.anonUploadEnable := by
  rcases h with hgate | ⟨hstor, hgate⟩
  · exact hgate
  · rw [uploadExclusive, hstor, hanon, Bool.false_or, Bool.and_eq_true] at hexclusive
    have hother := hgate.2 hexclusive.1
    rw [hother] at hexclusive
    exact absurd hexclusive.2 (by decide)

theorem UploadGate.create {isUnique : Bool} {sess : VsfSession}
    (h : UploadGate cfg base isUnique) (hanon : sess.isAnonymous = base.isAnonymous)
    (hcreate : ¬ uploadExclusive cfg isUnique sess = true) :
    WriteGate cfg base cfg.anonOtherWriteEnable := by
  have hwrite : cfg.writeEnable = true := by
    rcases h with hgate | ⟨-, hgate⟩
    · exact hgate.1
    · exact hgate.1
  refine ⟨hwrite, fun hbase => ?_⟩
  by_contra hother
  apply hcreate
  rw [uploadExclusive, hanon, hbase, Bool.eq_false_iff.mpr hother]
  exact Bool.or_true isUnique

/-- Opening the file of an upload that was let through. -/
theorem openUpload_wp {isUnique : Bool} {exclusive : Bool} {name : Bytes}
    {Q : Fd → State W → Prop} (hs : Settled cfg base may (s.core φ))
    (hactive : Active cfg (s.core φ)) (hstart : Active cfg (start.core φ))
    (hplain : needsEncryption cfg start.session = false) (hfs : φ s.world = φ start.world)
    (hcommand : UploadCommand cfg isUnique start)
    (hname : uploadNameAt cfg k start s.world isUnique = some name)
    (hallowed : checkFile cfg k s name = true) (hupload : checkFileUpload cfg k s name = true)
    (hgate : OpenGate cfg base (if exclusive then .exclusive else .create))
    (hfail : ∀ s', Settled cfg base may (s'.core φ) → Q (-1) s')
    (hok : ∀ (fd : Fd) f s', 0 ≤ fd → f.path = name → (exclusive = false → f.how = .create) →
      Uploading cfg k base φ may start fd f s' → Q fd s') :
    wp (sessionRequirement cfg k base φ may start) (openUpload cfg k exclusive name) Q s := by
  have hopened (how : OpenHow) (hwrites : how ≠ .read) (hgate : OpenGate cfg base how)
      (hhow : exclusive = false → how = .create) :
      wp (sessionRequirement cfg k base φ may start)
        (openFile k ⟨how, name, cfg.fileOpenMode⟩) Q s := by
    refine openFile_wp hs ⟨hallowed, hgate, fun _ => ⟨isUnique, hcommand⟩⟩ hfail ?_
    intro fd s' hopen h' hfd
    refine hok fd ⟨how, name, cfg.fileOpenMode⟩ s' hfd rfl hhow ⟨?_, ?_, s.world, ?_⟩
    · rw [h']
      exact hs.withFile _ _ _
    · rw [h']
      exact hactive.withFile _ _ _
    · have hfiles : s'.files = Function.update s.files fd (some ⟨how, name, cfg.fileOpenMode⟩) :=
        congrArg Core.files h'
      have hknown : s'.files fd = some ⟨how, name, cfg.fileOpenMode⟩ := by
        rw [hfiles, Function.update_self]
      exact
        { active := hstart
          plain := hplain
          command := ⟨isUnique, hcommand, hname⟩
          writes := hwrites
          gate := hgate
          before := hfs
          allowed := hallowed
          uploadAllowed := hupload
          opened := hopen
          known := hknown
          after := congrArg Core.fs h' }
  cases exclusive with
  | true => exact hopened .exclusive (by decide) hgate (by decide)
  | false => exact hopened .create (by decide) hgate fun _ => rfl

theorem uploadNamed_settled {isAppend isUnique : Bool} {offset : Int} {name : Bytes}
    (hk : KeepsFs k φ) (hs : Settled cfg base may (s.core φ)) (hactive : Active cfg (s.core φ))
    (hstart : Active cfg (start.core φ)) (hplain : needsEncryption cfg start.session = false)
    (hlog : s.session.logType = none) (hfs : φ s.world = φ start.world)
    (hcommand : UploadCommand cfg isUnique start) (hgate : UploadGate cfg base isUnique)
    (hname : uploadNameAt cfg k start s.world isUnique = some name) :
    wp (sessionRequirement cfg k base φ may start) (uploadNamed cfg k isAppend isUnique offset name)
      (fun _ s' => Settled cfg base may (s'.core φ)) s := by
  rw [uploadNamed, wp_bind]
  refine vsfLogStartEntry_wp (φ := φ) hlog fun s1 h1 hworld1 _ => ?_
  rw [wp_bind]
  refine logArg_wp (φ := φ) fun s2 h2 hworld2 _ => ?_
  have hout := h2.trans h1
  have hworld : s2.world = s.world := hworld2.trans hworld1
  have hs2 : Settled cfg base may (s2.core φ) := hs.congr hout
  have hanon : s2.session.isAnonymous = base.isAnonymous := hs2.isAnonymous
  rw [wp_bind, wp_get]
  dsimp only
  refine wp_ite.mpr ⟨fun _ => ?_, fun hallowed => ?_⟩
  · exact (replying_noPermission hk).settled hs2 fun _ _ hs' => hs'
  have hcheck : checkFile cfg k s2 name = true :=
    eq_true_of_not fun hdenied => hallowed (.inl hdenied)
  have hupload : checkFileUpload cfg k s2 name = true :=
    eq_true_of_not fun hdenied => hallowed (.inr hdenied)
  rw [← hworld] at hfs hname
  have hopen : OpenGate cfg base
      (if uploadExclusive cfg isUnique s2.session then .exclusive else .create) := by
    split
    · exact hgate.exclusive hanon ‹_›
    · exact hgate.create hanon ‹_›
  rw [wp_bind]
  apply openUpload_wp hs2 (hactive.congr hout) hstart hplain hfs hcommand hname hcheck hupload hopen
  · intro s3 hs3
    refine wp_ite.mpr ⟨fun _ => ?_, fun hpos => absurd (by decide) hpos⟩
    exact (replying_write hk _ _).settled hs3 fun _ _ hs' => hs'
  · intro fd f s3 hfd hpath hhow h3
    refine wp_ite.mpr ⟨fun hneg => absurd hfd (Int.not_le.mpr hneg), fun _ => ?_⟩
    refine uploadOpened_settled hk h3 hpath fun htruncate => hhow ?_
    rw [Bool.and_eq_true, Bool.and_eq_true] at htruncate
    simpa using htruncate.1.1

theorem serves_handleUploadCommon (hk : KeepsFs k φ) (hs : Settled cfg base may (start.core φ))
    (hlog : start.session.logType = none) {isAppend isUnique : Bool}
    (hcommand : UploadCommand cfg isUnique start) (hgate : UploadGate cfg base isUnique) :
    Serves cfg k base φ may start (handleUploadCommon cfg k isAppend isUnique) := by
  rw [Serves, handleUploadCommon, wp_bind, wp_getSess, wp_bind]
  refine note_wp (φ := φ) rfl fun s1 h1 _ hsess1 => ?_
  have hs1 : Settled cfg base may (s1.core φ) := hs.congr h1
  rw [wp_bind]
  refine dataTransferChecksOk_wp hk hs1 fun ok s2 h2 hok => ?_
  have hs2 : Settled cfg base may (s2.core φ) := h2 ▸ hs1
  refine wp_ite.mpr ⟨fun _ => wp_pure.mpr hs2, fun hpass => ?_⟩
  obtain ⟨hactive1, hplain1⟩ := hok (by simpa using hpass)
  have hactive2 : Active cfg (s2.core φ) := h2 ▸ hactive1
  have hstart : Active cfg (start.core φ) := hactive1.congr h1.symm
  have hplain : needsEncryption cfg start.session = false := by
    rw [hsess1] at hplain1
    exact hplain1
  have hsteady2 : s2.session.steady = s1.session.steady := congrArg Core.steady h2
  rw [wp_bind]
  refine resolveArg_wp (φ := φ) fun s3 h3 hworld3 hsess3 => ?_
  have hs3 : Settled cfg base may (s3.core φ) := hs2.congr h3
  have hlog3 : s3.session.logType = none := by
    have hlog2 : s2.session.steady.logType = s1.session.steady.logType :=
      congrArg VsfSession.logType hsteady2
    calc s3.session.logType = s2.session.logType := by rw [hsess3]
      _ = s1.session.logType := hlog2
      _ = start.session.logType := by rw [hsess1]
      _ = none := hlog
  have hfs : φ s3.world = φ start.world := by
    calc φ s3.world = φ s2.world := congrArg Core.fs h3
      _ = φ s1.world := congrArg Core.fs h2
      _ = φ start.world := congrArg Core.fs h1
  -- the argument and the home are those the command began with
  have harg : s2.session.ftpArgStr = start.session.ftpArgStr := by
    have h21 : s2.session.steady.ftpArgStr = s1.session.steady.ftpArgStr :=
      congrArg VsfSession.ftpArgStr hsteady2
    calc s2.session.ftpArgStr = s1.session.ftpArgStr := h21
      _ = start.session.ftpArgStr := by rw [hsess1]
  have hhome : s2.session.homeStr = start.session.homeStr := by
    have h21 : s2.session.steady.homeStr = s1.session.steady.homeStr :=
      congrArg VsfSession.homeStr hsteady2
    calc s2.session.homeStr = s1.session.homeStr := h21
      _ = start.session.homeStr := by rw [hsess1]
  have hname : uploadName k isUnique s3 = uploadNameAt cfg k start s3.world isUnique := by
    have harg3 : s3.session.ftpArgStr =
        resolveName cfg k { start with world := s3.world } start.session.ftpArgStr := by
      rw [hsess3, resolveName, resolveName, harg, hhome, hworld3]
    unfold uploadNameAt uploadName
    rw [harg3]
  rw [wp_bind, wp_get]
  cases hfound : uploadName k isUnique s3 with
  | none => exact wp_halt.mpr ⟨trivial, fun heq => Halt.noConfusion heq⟩
  | some name =>
      exact uploadNamed_settled hk hs3 (hactive2.congr h3) hstart hplain hlog3 hfs hcommand hgate
        (hname.symm.trans hfound)

end Vsftpd.Session
