import Vsftpd.Session.EpsvAll

/-!
# Who is asked before a file is touched

`deny_file` is asked about every name that a command uses, except that RNTO does not
ask again about the name that RNFR left, and that an upload does not ask again about a
name that means something else once its file is there.
-/

namespace Vsftpd.Session

open Vsftpd.Lib

variable {W X α : Type} {cfg : Tunables} {k : Kernel W} {base : VsfSession} {φ : W → X}
  {start s : State W}

/-! ## What names mean -/

/-- What names mean: whether they are let through, whether they are taken, and homes. -/
structure NameView where
  allowed : Bytes → Bool
  taken : Bytes → Bool
  home : Bytes → Option Bytes

def nameView (cfg : Tunables) (k : Kernel W) (w : W) : NameView where
  allowed := vsfAccessCheckFile (k.pathEnv w) cfg.denyFile
  taken := fun path => (k.stat w path).isSome
  home := k.getpwnamHomedir w

/-- Nothing but the session's own changes of names changes what names mean. -/
def Undisturbed (cfg : Tunables) (k : Kernel W) : Prop := KeepsFs k (nameView cfg k)

theorem nameView_congr {w w' : W} (h : nameView cfg k w = nameView cfg k w') :
    (∀ path, vsfAccessCheckFile (k.pathEnv w) cfg.denyFile path =
      vsfAccessCheckFile (k.pathEnv w') cfg.denyFile path) ∧
    (∀ path, (k.stat w path).isSome = (k.stat w' path).isSome) ∧
    k.getpwnamHomedir w = k.getpwnamHomedir w' := by
  have hallowed := congrArg NameView.allowed h
  have htaken := congrArg NameView.taken h
  exact ⟨fun path => congrFun hallowed path, fun path => congrFun htaken path,
    congrArg NameView.home h⟩

theorem uploadNameAt_congr {w w' : W} (h : nameView cfg k w = nameView cfg k w')
    (isUnique : Bool) :
    uploadNameAt cfg k start w isUnique = uploadNameAt cfg k start w' isUnique := by
  obtain ⟨-, htaken, hhome⟩ := nameView_congr h
  have hresolve : resolveName cfg k { start with world := w } start.session.ftpArgStr =
      resolveName cfg k { start with world := w' } start.session.ftpArgStr := by
    unfold resolveName
    rw [hhome]
  have hfun : (fun path => (k.stat w path).isSome) = fun path => (k.stat w' path).isSome :=
    funext htaken
  unfold uploadNameAt uploadName
  dsimp only
  rw [hresolve, hfun]

/-! ## Mediation -/

/-- The name is let through when the call is made. -/
def Mediated (cfg : Tunables) (k : Kernel W) (e : Event W) : Prop :=
  match e.call with
  | .chdir path | .mkdir path _ | .rmdir path | .unlink path | .chmod path _ | .utime path _ _ =>
    checkFile cfg k e.before path = true
  | .open _ file => checkFile cfg k e.before file.path = true
  | .rename src dst =>
    checkFile cfg k e.before src = true ∧ checkFile cfg k e.before dst = true
  | .fchmod fd _ => ∀ file, e.before.files fd = some file →
    checkFile cfg k e.before file.path = true
  | _ => True

/-- The command that begins in `start` meets neither of the two: the name that a RNTO
takes from RNFR is let through, and so is the name of an upload once its file is there, when
the file is to be given away or may be deleted. -/
structure StaysAllowed (cfg : Tunables) (k : Kernel W) (start : State W) : Prop where
  rename : Runs cfg start .rnto → start.session.rnfrFilenameStr ≠ [] →
    checkFile cfg k start (resolveName cfg k start start.session.ftpArgStr) = true →
    checkFile cfg k start start.session.rnfrFilenameStr = true
  upload : (start.session.isAnonymous = true ∧ cfg.chownUploads = true) ∨
    cfg.deleteFailedUploads = true →
    ∀ isUnique name, UploadCommand cfg isUnique start →
    uploadNameAt cfg k start start.world isUnique = some name →
    checkFile cfg k start name = true →
    ∀ w fd (file : OpenFile), nameView cfg k w = nameView cfg k start.world →
      file.path = name → file.how ≠ .read → (k.run (.open fd file) w).1 = true →
      vsfAccessCheckFile (k.pathEnv (k.run (.open fd file) w).2) cfg.denyFile name = true

/-- The file of an upload is let through as long as it is there. -/
theorem IsUpload.allowed {fd : Fd} {file : OpenFile}
    (h : IsUpload cfg k base (nameView cfg k) start s fd file) (hstays : StaysAllowed cfg k start)
    (htouches : (start.session.isAnonymous = true ∧ cfg.chownUploads = true) ∨
      cfg.deleteFailedUploads = true) :
    checkFile cfg k s file.path = true := by
  obtain ⟨w, hw⟩ := h
  obtain ⟨isUnique, hcommand, hname⟩ := hw.command
  rw [uploadNameAt_congr hw.before] at hname
  have hbefore : checkFile cfg k start file.path = true := by
    unfold checkFile
    rw [← (nameView_congr hw.before).1]
    exact hw.allowed
  have hafter := hstays.upload htouches isUnique file.path hcommand hname hbefore w fd file
    hw.before rfl hw.writes hw.opened
  unfold checkFile
  rw [(nameView_congr hw.after).1]
  exact hafter

theorem EventOk.mediated {e : Event W} (h : EventOk cfg k base (nameView cfg k) start e)
    (hstays : StaysAllowed cfg k start) (hanon : start.session.isAnonymous = base.isAnonymous) :
    Mediated cfg k e := by
  obtain ⟨call, s⟩ := e
  have hissued := h.issued
  cases call with
  | chdir path => exact hissued
  | «open» fd file => exact hissued.1
  | mkdir path mode => exact hissued.1
  | rmdir path => exact hissued.1
  | unlink path =>
      rcases hissued with ⟨hallowed, -⟩ | ⟨hdelete, fd, file, hfile, hpath⟩
      · exact hallowed
      · have hallowed := hfile.allowed hstays (.inr hdelete)
        rw [hpath] at hallowed
        exact hallowed
  | rename src dst =>
      obtain ⟨hdst, -, hruns, hsrc, hnonempty, hresolved, hfs⟩ := hissued
      have hsame := (nameView_congr hfs).1
      have hdstStart : checkFile cfg k start dst = true := (hsame dst).symm.trans hdst
      rw [hresolved] at hdstStart
      have hsrcStart := hstays.rename hruns (hsrc ▸ hnonempty) hdstStart
      rw [← hsrc] at hsrcStart
      exact ⟨(hsame src).trans hsrcStart, hdst⟩
  | chmod path mode => exact hissued.1
  | utime path time isLocaltime => exact hissued.1
  | fchmod fd mode =>
      obtain ⟨hgiven, hchown, file, hfile⟩ := hissued
      intro other hother
      have hknown : s.files fd = some file := hfile.choose_spec.known
      obtain rfl : file = other := Option.some.inj (hknown.symm.trans hother)
      exact hfile.allowed hstays (.inl ⟨hanon.trans hgiven, hchown⟩)
  | _ => trivial

theorem not_runs_atLogin (cfg : Tunables) (sess : VsfSession) (world : W) {command : Command}
    (h : command ≠ .ignored) : ¬ Runs cfg (atLogin cfg sess world) command := by
  rintro ⟨-, hcommand⟩
  have hignored : commandFor cfg (atLogin cfg sess world).session = .ignored := by
    simp [commandFor, commandTable, isCmd, firstCommand, knownCommands, bytes, atLogin, strIsempty]
  exact h (hcommand.symm.trans hignored)

theorem not_uploadCommand_atLogin (cfg : Tunables) (sess : VsfSession) (world : W)
    (isUnique : Bool) : ¬ UploadCommand cfg isUnique (atLogin cfg sess world) := by
  unfold UploadCommand
  cases isUnique with
  | true => exact not_runs_atLogin cfg sess world (by decide)
  | false =>
      rintro (hstor | happe)
      · exact not_runs_atLogin cfg sess world (by decide) hstor
      · exact not_runs_atLogin cfg sess world (by decide) happe

theorem staysAllowed_atLogin (cfg : Tunables) (k : Kernel W) (sess : VsfSession) (world : W) :
    StaysAllowed cfg k (atLogin cfg sess world) where
  rename := fun hruns => absurd hruns (not_runs_atLogin cfg sess world (by decide))
  upload := fun _ isUnique _ hcommand =>
    absurd hcommand (not_uploadCommand_atLogin cfg sess world isUnique)

/-- In a run whose commands all meet the condition every name is asked about. -/
theorem mediated_of_staysAllowed (cfg : Tunables) (k : Kernel W) (sess : VsfSession) (world : W)
    (n : Nat) (hk : Undisturbed cfg k)
    (hstays : ∀ i start, i < n → Begins cfg k (atLogin cfg sess world) i start →
      StaysAllowed cfg k start) :
    EveryEvent cfg k (atLogin cfg sess world) n fun _ e => Mediated cfg k e := by
  have hinv : LoopInv cfg _ _ AnyAddr _ := loopInv_atLogin cfg sess world (nameView cfg k)
  have hok : EveryEvent cfg k (atLogin cfg sess world) n
      (EventOk cfg k (atLogin cfg sess world).session (nameView cfg k)) :=
    everyEvent_ok hk hinv n
  refine hok.mono (fun e he => ?_) fun i start e hi hbegins he => ?_
  · exact he.mediated (staysAllowed_atLogin cfg k sess world) rfl
  · exact he.mediated (hstays i start hi hbegins)
      (loopInv_begins hk hinv hbegins).settled.isAnonymous

/-! ### A run -/

/-- A client that may write, but not touch what is in `/private`. -/
def privateDenied : Tunables where
  writeEnable := true
  denyFile := some (bytes "/private/*")

theorem undisturbed_script : Undisturbed privateDenied scriptKernel := by
  intro c hleaves w
  cases c with
  | recvLine =>
      obtain ⟨lines, cwd, files⟩ := w
      cases lines <;> rfl
  | chdir path => exact absurd hleaves not_false
  | «open» fd file => exact absurd hleaves not_false
  | unlink path => exact absurd hleaves not_false
  | rename src dst => exact absurd hleaves not_false
  | _ => rfl

def renameHere : State Script := scriptLogin privateDenied false ["RNFR a", "RNTO b"] ["/a"]

theorem not_uploadCommand {start : State W} (h : commandFor cfg start.session ≠ .stor)
    (h' : commandFor cfg start.session ≠ .appe) (h'' : commandFor cfg start.session ≠ .stou)
    (isUnique : Bool) : ¬ UploadCommand cfg isUnique start := by
  unfold UploadCommand
  cases isUnique with
  | true => exact fun hruns => h'' hruns.2
  | false =>
      rintro (hstor | happe)
      · exact h hstor.2
      · exact h' happe.2

theorem renameHere_first :
    commandFor privateDenied (scriptStart privateDenied renameHere 0).session = .rnfr := by
  decide +kernel

theorem renameHere_second :
    commandFor privateDenied (scriptStart privateDenied renameHere 1).session = .rnto ∧
      checkFile privateDenied scriptKernel (scriptStart privateDenied renameHere 1)
        (scriptStart privateDenied renameHere 1).session.rnfrFilenameStr = true := by
  decide +kernel

theorem staysAllowed_of_command {start : State W} {command : Command}
    (h : commandFor cfg start.session = command) (hstor : command ≠ .stor)
    (happe : command ≠ .appe) (hstou : command ≠ .stou)
    (hrename : command = .rnto → checkFile cfg k start start.session.rnfrFilenameStr = true) :
    StaysAllowed cfg k start where
  rename := fun hruns _ _ => hrename (h.symm.trans hruns.2)
  upload := fun _ isUnique _ hcommand => absurd hcommand
    (not_uploadCommand (h ▸ hstor) (h ▸ happe) (h ▸ hstou) isUnique)

theorem renameHere_staysAllowed (i : Nat) (start : State Script) (hi : i < 2)
    (hbegins : Begins privateDenied scriptKernel renameHere i start) :
    StaysAllowed privateDenied scriptKernel start := by
  rw [eq_scriptStart hbegins]
  clear hbegins
  match i, hi with
  | 0, _ =>
      exact staysAllowed_of_command renameHere_first (by decide) (by decide) (by decide)
        (fun hrnto => absurd hrnto (by decide))
  | 1, _ =>
      exact staysAllowed_of_command renameHere_second.1 (by decide) (by decide) (by decide)
        (fun _ => renameHere_second.2)

theorem mediated_renameHere :
    EveryEvent privateDenied scriptKernel renameHere 2
      fun _ e => Mediated privateDenied scriptKernel e :=
  mediated_of_staysAllowed privateDenied scriptKernel (localClient false) _ 2 undisturbed_script
    renameHere_staysAllowed

/-- The name is let through by RNFR and denotes another file when RNTO uses it. -/
def renameElsewhere : State Script :=
  scriptLogin privateDenied false ["RNFR a", "CWD /private", "RNTO /b"] ["/a", "/private/a"]

def rntoElsewhere : State Script := scriptStart privateDenied renameElsewhere 2

/-- RNTO moves `/private/a`, about which nobody was asked, to `/b`. -/
theorem renameElsewhere_unmediated :
    Undisturbed privateDenied scriptKernel ∧
      ¬ EveryEvent privateDenied scriptKernel renameElsewhere 3
        fun _ e => Mediated privateDenied scriptKernel e := by
  refine ⟨undisturbed_script, fun h => ?_⟩
  have hcalls : ((serveCommand privateDenied scriptKernel rntoElsewhere).1.map fun e =>
      (e.call, checkFile privateDenied scriptKernel e.before (bytes "a"))).head? =
      some (.rename (bytes "a") (bytes "/b"), false) := by
    decide +kernel
  have hserving := h.serving 2 rntoElsewhere (by decide) ⟨_, rfl, rfl⟩
  cases hevents : (serveCommand privateDenied scriptKernel rntoElsewhere).1 with
  | nil =>
      rw [hevents] at hcalls
      exact absurd hcalls (by simp)
  | cons e rest =>
      rw [hevents] at hcalls
      have hfirst := Option.some.inj hcalls
      have hmediated := hserving e (hevents ▸ List.mem_cons_self)
      have hcall : e.call = .rename (bytes "a") (bytes "/b") := congrArg Prod.fst hfirst
      unfold Mediated at hmediated
      rw [hcall] at hmediated
      have hdenied : checkFile privateDenied scriptKernel e.before (bytes "a") = false :=
        congrArg Prod.snd hfirst
      exact absurd (hdenied.symm.trans hmediated.1) (by decide)

end Vsftpd.Session
