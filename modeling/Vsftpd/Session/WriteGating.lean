import Vsftpd.Session.Mediation

/-!
# Who may change files

Nothing is changed without `write_enable`, an anonymous session changes nothing without
the tunable for it, and without `anon_other_write_enable` no anonymous command changes
a file that was there before it.
-/

namespace Vsftpd.Session

open Vsftpd.Lib

variable {W X α : Type} {cfg : Tunables} {k : Kernel W} {base : VsfSession} {φ : W → X}
  {start s : State W}

/-! ## The tunables -/

/-- The tunable for the uploads of a command: appending is not uploading. -/
def uploadTunable (cfg : Tunables) : Command → Bool
  | .appe => cfg.anonOtherWriteEnable
  | _ => cfg.anonUploadEnable

/-- An upload by the command that begins in `start`. -/
def UploadGated (cfg : Tunables) (base : VsfSession) (start : State W) : Prop :=
  WriteGate cfg base (uploadTunable cfg (commandFor cfg start.session))

/-- What a change of the file system asks of the configuration. -/
def WriteGated (cfg : Tunables) (base : VsfSession) (start : State W) (e : Event W) : Prop :=
  match e.call with
  | .open _ file =>
    file.how ≠ .read → UploadGated cfg base start ∧
      (file.how = .create → WriteGate cfg base cfg.anonOtherWriteEnable)
  | .ftruncate _ | .fchmod _ _ => UploadGated cfg base start
  | .transferFile _ _ isRecv _ => isRecv = true → UploadGated cfg base start
  | .mkdir _ _ => WriteGate cfg base cfg.anonMkdirWriteEnable
  | .rmdir _ | .rename _ _ | .utime _ _ _ => WriteGate cfg base cfg.anonOtherWriteEnable
  | .unlink _ => WriteGate cfg base cfg.anonOtherWriteEnable ∨
    (cfg.deleteFailedUploads = true ∧ (∃ isUnique, UploadCommand cfg isUnique start) ∧
      UploadGated cfg base start)
  | .chmod _ _ => cfg.writeEnable = true ∧ base.isAnonymous = false
  | _ => True

theorem UploadCommand.gated {isUnique : Bool} (h : UploadCommand cfg isUnique start)
    (hanon : start.session.isAnonymous = base.isAnonymous) : UploadGated cfg base start := by
  have hgate : CommandGate cfg start.session (commandFor cfg start.session) :=
    commandFor_gate start.session
  have hcases : commandFor cfg start.session = .stou ∨ commandFor cfg start.session = .stor ∨
      commandFor cfg start.session = .appe := by
    unfold UploadCommand at h
    cases isUnique with
    | true => exact .inl h.2
    | false => exact .inr (h.imp And.right And.right)
  unfold UploadGated
  rcases hcases with hcommand | hcommand | hcommand
  · rw [hcommand] at hgate ⊢
    exact mayWrite_gate hanon hgate
  · rw [hcommand] at hgate ⊢
    exact mayWrite_gate hanon hgate
  · rw [hcommand] at hgate ⊢
    exact mayWrite_gate hanon hgate

theorem IsUpload.gated {fd : Fd} {file : OpenFile} (h : IsUpload cfg k base φ start s fd file)
    (hanon : start.session.isAnonymous = base.isAnonymous) : UploadGated cfg base start := by
  obtain ⟨w, hw⟩ := h
  obtain ⟨isUnique, hcommand, -⟩ := hw.command
  exact hcommand.gated hanon

theorem EventOk.writeGated {e : Event W} (h : EventOk cfg k base φ start e)
    (hanon : start.session.isAnonymous = base.isAnonymous) : WriteGated cfg base start e := by
  obtain ⟨call, s⟩ := e
  have hissued := h.issued
  cases call with
  | «open» fd file =>
      obtain ⟨-, hgate, hupload⟩ := hissued
      intro hwrites
      obtain ⟨isUnique, hcommand⟩ := hupload hwrites
      refine ⟨hcommand.gated hanon, fun hcreate => ?_⟩
      rw [hcreate] at hgate
      exact hgate
  | ftruncate fd =>
      obtain ⟨file, hfile, -⟩ := hissued
      exact hfile.gated hanon
  | fchmod fd mode =>
      obtain ⟨-, -, file, hfile⟩ := hissued
      exact hfile.gated hanon
  | transferFile remoteFd fileFd isRecv isAscii =>
      intro hrecv
      obtain ⟨file, hfile⟩ := hissued.2.2 hrecv
      exact hfile.gated hanon
  | mkdir path mode => exact hissued.2
  | rmdir path => exact hissued.2
  | rename src dst => exact hissued.2.1
  | utime path time isLocaltime => exact hissued.2.1
  | unlink path =>
      rcases hissued with ⟨-, hgate⟩ | ⟨hdelete, fd, file, hfile, -⟩
      · exact .inl hgate
      · obtain ⟨w, hw⟩ := hfile
        obtain ⟨isUnique, hcommand, -⟩ := hw.command
        exact .inr ⟨hdelete, ⟨isUnique, hcommand⟩, hcommand.gated hanon⟩
  | chmod path mode => exact ⟨hissued.2.1, hissued.2.2.2⟩
  | _ => trivial

/-! ## Files that were there before -/

/-- Names that are taken. -/
def takenView (k : Kernel W) (w : W) : Bytes → Bool := fun path => (k.stat w path).isSome

/-- `O_CREAT | O_EXCL`: the file that was opened was not there. -/
def OpensExclusively (k : Kernel W) : Prop :=
  ∀ fd path mode w, (k.run (.open fd ⟨.exclusive, path, mode⟩) w).1 = true →
    takenView k w path = false

/-- The call leaves the files alone that were there when the command began. -/
def SparesFiles (k : Kernel W) (start : State W) (e : Event W) : Prop :=
  match e.call with
  | .open _ file => file.how ≠ .create
  | .transferFile _ fileFd isRecv _ =>
    isRecv = true → ∃ file, e.before.files fileFd = some file ∧ file.how = .exclusive ∧
      takenView k start.world file.path = false
  | .fchmod fd _ =>
    ∃ file, e.before.files fd = some file ∧ file.how = .exclusive ∧
      takenView k start.world file.path = false
  | .unlink path => takenView k start.world path = false
  | .ftruncate _ | .rmdir _ | .rename _ _ | .utime _ _ _ | .chmod _ _ => False
  | _ => True

theorem IsUpload.fresh {fd : Fd} {file : OpenFile}
    (h : IsUpload cfg k base (takenView k) start s fd file) (hexclusive : OpensExclusively k)
    (hanon : base.isAnonymous = true) (hother : cfg.anonOtherWriteEnable = false) :
    s.files fd = some file ∧ file.how = .exclusive ∧
      takenView k start.world file.path = false := by
  obtain ⟨w, hw⟩ := h
  obtain ⟨how, path, mode⟩ := file
  have hgate := hw.gate
  cases how with
  | read => exact absurd rfl hw.writes
  | create => exact absurd ((hgate.2 hanon).symm.trans hother) (by decide)
  | exclusive =>
      refine ⟨hw.known, rfl, ?_⟩
      rw [← hw.before]
      exact hexclusive fd path mode w hw.opened

theorem EventOk.sparesFiles {e : Event W} (h : EventOk cfg k base (takenView k) start e)
    (hexclusive : OpensExclusively k) (hanon : base.isAnonymous = true)
    (hother : cfg.anonOtherWriteEnable = false) : SparesFiles k start e := by
  obtain ⟨call, s⟩ := e
  have hissued := h.issued
  have hclosed : ¬ WriteGate cfg base cfg.anonOtherWriteEnable := fun hgate =>
    absurd ((hgate.2 hanon).symm.trans hother) (by decide)
  cases call with
  | «open» fd file =>
      intro hcreate
      have hgate := hissued.2.1
      rw [hcreate] at hgate
      exact hclosed hgate
  | ftruncate fd =>
      obtain ⟨file, hfile, hcreate⟩ := hissued
      have hfresh := hfile.fresh hexclusive hanon hother
      exact absurd (hfresh.2.1.symm.trans hcreate) (by decide)
  | fchmod fd mode =>
      obtain ⟨-, -, file, hfile⟩ := hissued
      exact ⟨file, hfile.fresh hexclusive hanon hother⟩
  | transferFile remoteFd fileFd isRecv isAscii =>
      intro hrecv
      obtain ⟨file, hfile⟩ := hissued.2.2 hrecv
      exact ⟨file, hfile.fresh hexclusive hanon hother⟩
  | unlink path =>
      rcases hissued with ⟨-, hgate⟩ | ⟨-, fd, file, hfile, rfl⟩
      · exact absurd hgate hclosed
      · exact (hfile.fresh hexclusive hanon hother).2.2
  | rmdir path => exact absurd hissued.2 hclosed
  | rename src dst => exact absurd hissued.2.1 hclosed
  | utime path time isLocaltime => exact absurd hissued.2.1 hclosed
  | chmod path mode => exact absurd (hissued.2.2.2.symm.trans hanon) (by decide)
  | _ => trivial

/-- The first two parts hold of every kernel, the third of one that opens exclusively
and when nobody else changes which names are taken. -/
theorem processPostLogin_writeGated (cfg : Tunables) (k : Kernel W) (sess : VsfSession) (world : W)
    (n : Nat) :
    EveryEvent cfg k (atLogin cfg sess world) n (WriteGated cfg sess) ∧
      (KeepsFs k (takenView k) → OpensExclusively k → sess.isAnonymous = true →
        cfg.anonOtherWriteEnable = false →
        EveryEvent cfg k (atLogin cfg sess world) n (SparesFiles k)) := by
  constructor
  · have hinv : LoopInv cfg _ _ AnyAddr _ := loopInv_atLogin cfg sess world fun _ : W => ()
    have hok : EveryEvent cfg k (atLogin cfg sess world) n
        (EventOk cfg k (atLogin cfg sess world).session _) :=
      everyEvent_ok (keepsFs_unit k) hinv n
    refine hok.mono (fun e he => he.writeGated rfl) fun i start e _ hbegins he => ?_
    exact he.writeGated (loopInv_begins (keepsFs_unit k) hinv hbegins).settled.isAnonymous
  · intro hk hexclusive hanon hother
    have hok : EveryEvent cfg k (atLogin cfg sess world) n
        (EventOk cfg k (atLogin cfg sess world).session (takenView k)) :=
      everyEvent_ok hk (loopInv_atLogin cfg sess world (takenView k)) n
    refine hok.mono (fun e he => ?_) fun i start e _ _ he => ?_
    · exact he.sparesFiles hexclusive hanon hother
    · exact he.sparesFiles hexclusive hanon hother

/-! ### A run -/

/-- An anonymous client that may upload. -/
def anonymousUploads : Tunables where
  writeEnable := true
  anonUploadEnable := true

def uploadTwice : State Script :=
  scriptLogin anonymousUploads true
    ["PORT 127,0,0,1,8,0", "STOR b", "PORT 127,0,0,1,8,0", "STOR a"] ["/a"]

theorem takenView_script : KeepsFs scriptKernel (takenView scriptKernel) := fun c hleaves w =>
  funext fun path => (nameView_congr (undisturbed_script c hleaves w)).2.1 path

theorem opensExclusively_script : OpensExclusively scriptKernel := by
  intro fd path mode w hopen
  have hfree : (!w.has path) = true := hopen
  show (w.stat path).isSome = false
  unfold Script.stat
  rw [if_neg (by simpa using hfree)]
  rfl

theorem uploadTwice_sparesFiles :
    EveryEvent anonymousUploads scriptKernel uploadTwice 4 (SparesFiles scriptKernel) :=
  (processPostLogin_writeGated anonymousUploads scriptKernel (localClient true) _ 4).2
    takenView_script opensExclusively_script rfl rfl

end Vsftpd.Session
