import Vsftpd.Seccomp.Policy
import Vsftpd.Session.Guarantees

/-!
# A session that may not write

What the rules of the session let through when `write_enable` is off.  The filter sees
the flags of an `open()` but neither the path nor the object behind a descriptor.
-/

namespace Vsftpd.Seccomp

open Vsftpd.Session (VsfSession localClient)

/-! ## What a call can do to a file system -/

inductive Effect where
  | create
  | truncate
  | rename
  | remove
  | changeMode
  | changeOwner
  | changeTimes
  | openForWriting
  deriving DecidableEq, Repr

/-- The kernel takes the flags as an `int`. -/
def openEffects (flags : UInt32) : List Effect :=
  (if flags &&& oAccmode.toUInt32 ≠ 0 then [.openForWriting] else []) ++
  (if flags &&& oCreat.toUInt32 ≠ 0 then [.create] else []) ++
  (if flags &&& oTrunc.toUInt32 ≠ 0 then [.truncate] else [])

/-- The calls of x86-64 that alter a file system whatever their flags are.  `bind()` makes
a node when the socket is of the UNIX domain; `openat2()` has its flags in memory. -/
def alterations : List (Nat × List Effect) :=
  [(49, [.create]),                              -- bind
   (76, [.truncate]), (77, [.truncate]),         -- truncate, ftruncate
   (82, [.rename]), (264, [.rename]),            -- rename, renameat
   (316, [.rename]),                             -- renameat2
   (83, [.create]), (258, [.create]),            -- mkdir, mkdirat
   (133, [.create]), (259, [.create]),           -- mknod, mknodat
   (86, [.create]), (265, [.create]),            -- link, linkat
   (88, [.create]), (266, [.create]),            -- symlink, symlinkat
   (84, [.remove]), (87, [.remove]),             -- rmdir, unlink
   (263, [.remove]),                             -- unlinkat
   (90, [.changeMode]), (91, [.changeMode]),     -- chmod, fchmod
   (268, [.changeMode]), (452, [.changeMode]),   -- fchmodat, fchmodat2
   (92, [.changeOwner]), (93, [.changeOwner]),   -- chown, fchown
   (94, [.changeOwner]), (260, [.changeOwner]),  -- lchown, fchownat
   (132, [.changeTimes]), (235, [.changeTimes]), -- utime, utimes
   (261, [.changeTimes]), (280, [.changeTimes]), -- futimesat, utimensat
   (85, [.create, .truncate, .openForWriting]),  -- creat
   (437, [.create, .truncate, .openForWriting])] -- openat2

/-- The flags of `openat()` and `open_by_handle_at()` are the third argument. -/
def effects (d : SeccompData) : List Effect :=
  if d.nr = 2 then openEffects (d.lowArg 2)
  else if d.nr = 257 ∨ d.nr = 304 then openEffects (d.lowArg 3)
  else (alterations.lookup d.nr.toNat).getD []

/-! ## What the rules leave open -/

/-- What is not behind `write_enable`: opening with `O_CREAT`, the `bind()` of a process that
makes its own data connections, and the `fchmod()` and `fchown()` of an anonymous upload in the
one process model. -/
inductive LeftOpen (cfg : PolicyTunables) (sess : VsfSession) (d : SeccompData) : Effect → Prop
  | createOpen (h : d.nr = nrOpen.toUInt32) (hcreat : d.lowArg 2 &&& oCreat.toUInt32 ≠ 0) :
    LeftOpen cfg sess d .create
  | createOpenat (h : d.nr = nrOpenat.toUInt32) (hcreat : d.lowArg 3 &&& oCreat.toUInt32 ≠ 0) :
    LeftOpen cfg sess d .create
  | createBind (h : d.nr = nrBind.toUInt32) (hone : cfg.oneProcessModel = true) :
    LeftOpen cfg sess d .create
  | changeUploadMode (h : d.nr = nrFchmod.toUInt32) (hone : cfg.oneProcessModel = true)
      (hanon : sess.isAnonymous = true) (hchown : cfg.chownUploads = true) :
    LeftOpen cfg sess d .changeMode
  | changeUploadOwner (h : d.nr = nrFchown.toUInt32) (hone : cfg.oneProcessModel = true)
      (hanon : sess.isAnonymous = true) (hchown : cfg.chownUploads = true) :
    LeftOpen cfg sess d .changeOwner

/-- Flags inside the mask neither truncate nor open for writing. -/
theorem openEffects_masked {flags : UInt32} (h : flags &&& ~~~kOpenFlags.toUInt32 = 0) {e : Effect}
    (he : e ∈ openEffects flags) : e = .create ∧ flags &&& oCreat.toUInt32 ≠ 0 := by
  have hread : flags &&& oAccmode.toUInt32 = 0 := by
    have hsub : oAccmode.toUInt32 = ~~~kOpenFlags.toUInt32 &&& oAccmode.toUInt32 := by decide
    rw [hsub, ← UInt32.and_assoc, h, UInt32.zero_and]
  have hkeep : flags &&& oTrunc.toUInt32 = 0 := by
    have hsub : oTrunc.toUInt32 = ~~~kOpenFlags.toUInt32 &&& oTrunc.toUInt32 := by decide
    rw [hsub, ← UInt32.and_assoc, h, UInt32.zero_and]
  unfold openEffects at he
  rw [if_neg (not_not_intro hread), if_neg (not_not_intro hkeep)] at he
  split_ifs at he with hcreat
  · exact ⟨by simpa using he, hcreat⟩
  · exact absurd he (by simp)

/-- A rule whose number alters nothing. -/
def Call.Quiet (c : Call) : Prop :=
  c.nr ≠ nrOpen ∧ c.nr ≠ nrOpenat ∧ c.nr ≠ 304 ∧
    alterations.lookup c.nr.toUInt32.toNat = none

instance : DecidablePred Call.Quiet := fun c =>
  inferInstanceAs (Decidable (c.nr ≠ nrOpen ∧ c.nr ≠ nrOpenat ∧ c.nr ≠ 304 ∧
    alterations.lookup c.nr.toUInt32.toNat = none))

theorem Call.Matches.nr_ne {d : SeccompData} {c : Call} (h : c.Matches d) {nr : Int32}
    (hne : c.nr ≠ nr) : d.nr ≠ nr.toUInt32 := by
  intro heq
  exact hne (congrArg Int32.ofUInt32 (h.1.symm.trans heq))

theorem Call.Quiet.effects {c : Call} (hc : c.Quiet) {d : SeccompData} (h : c.Matches d) :
    effects d = [] := by
  have hopen : d.nr ≠ 2 := h.nr_ne hc.1
  have hopenat : d.nr ≠ 257 := h.nr_ne hc.2.1
  have hhandle : d.nr ≠ 304 := h.nr_ne hc.2.2.1
  unfold Seccomp.effects
  rw [if_neg hopen, if_neg (not_or.mpr ⟨hopenat, hhandle⟩), h.1, hc.2.2.2]
  rfl

section
variable {cfg : PolicyTunables} {sess : VsfSession}

/-- The rule lets no more through than is left open. -/
def Call.Leaves (cfg : PolicyTunables) (sess : VsfSession) (c : Call) : Prop :=
  ∀ d : SeccompData, c.Matches d → ∀ e ∈ effects d, LeftOpen cfg sess d e

theorem Call.Quiet.leaves {c : Call} (hc : c.Quiet) : c.Leaves cfg sess := by
  intro d h e he
  rw [hc.effects h] at he
  exact absurd he List.not_mem_nil

theorem leaves_open : (Call.oneMask nrOpen 2 kOpenFlags).Leaves cfg sess := by
  intro d h e he
  have hmask : d.lowArg 2 &&& ~~~kOpenFlags.toUInt32 = 0 := h.2 _ List.mem_cons_self
  have hnr : d.nr = 2 := h.1
  unfold effects at he
  rw [if_pos hnr] at he
  obtain ⟨rfl, hcreat⟩ := openEffects_masked hmask he
  exact .createOpen h.1 hcreat

theorem leaves_openat : (Call.oneMask nrOpenat 3 kOpenFlags).Leaves cfg sess := by
  intro d h e he
  have hmask : d.lowArg 3 &&& ~~~kOpenFlags.toUInt32 = 0 := h.2 _ List.mem_cons_self
  have hnr : d.nr = 257 := h.1
  have hopen : d.nr ≠ 2 := by
    rw [hnr]
    decide
  unfold effects at he
  rw [if_neg hopen, if_pos (.inl hnr)] at he
  obtain ⟨rfl, hcreat⟩ := openEffects_masked hmask he
  exact .createOpenat h.1 hcreat

/-- A rule whose number has one entry in the table. -/
theorem mem_effects_allow {nr : Int32} {d : SeccompData} {e e' : Effect}
    (h : (Call.allow nr).Matches d) (hnr : nr ≠ nrOpen ∧ nr ≠ nrOpenat ∧ nr ≠ 304)
    (htable : alterations.lookup nr.toUInt32.toNat = some [e]) (he : e' ∈ effects d) : e' = e := by
  have hopen : d.nr ≠ 2 := h.nr_ne hnr.1
  have hopenat : d.nr ≠ 257 := h.nr_ne hnr.2.1
  have hhandle : d.nr ≠ 304 := h.nr_ne hnr.2.2
  have hd : d.nr = nr.toUInt32 := h.1
  unfold effects at he
  rw [if_neg hopen, if_neg (not_or.mpr ⟨hopenat, hhandle⟩), hd, htable] at he
  exact List.mem_singleton.mp he

theorem leaves_bind (hone : cfg.oneProcessModel = true) : (Call.allow nrBind).Leaves cfg sess := by
  intro d h e he
  rw [mem_effects_allow h (by decide) rfl he]
  exact .createBind h.1 hone

theorem leaves_chown (hone : cfg.oneProcessModel = true) (hanon : sess.isAnonymous = true)
    (hchown : cfg.chownUploads = true) :
    (Call.allow nrFchmod).Leaves cfg sess ∧ (Call.allow nrFchown).Leaves cfg sess := by
  constructor
  · intro d h e he
    rw [mem_effects_allow h (by decide) rfl he]
    exact .changeUploadMode h.1 hone hanon hchown
  · intro d h e he
    rw [mem_effects_allow h (by decide) rfl he]
    exact .changeUploadOwner h.1 hone hanon hchown

theorem leaves_dataConnections (hone : cfg.oneProcessModel = true) :
    ∀ c ∈ seccompSandboxSetupDataConnections everyTunable, c.Leaves cfg sess := by
  have hquiet : ∀ c ∈ seccompSandboxSetupDataConnections everyTunable,
      c = .allow nrBind ∨ c.Quiet := by decide
  intro c hc
  rcases hquiet c hc with rfl | hquiet
  · exact leaves_bind hone
  · exact hquiet.leaves

theorem leaves_postlogin (hoff : cfg.writeEnable = false) (pid : Int32) :
    ∀ c ∈ seccompSandboxSetupPostlogin cfg pid sess, c.Leaves cfg sess := by
  have hflag : openFlag cfg = kOpenFlags := by
    unfold openFlag
    rw [hoff]
    rfl
  have hquiet : ∀ c ∈ commonRules, c.Quiet := by decide
  have hmsg : (Call.oneMatch nrRecvmsg 3 0).Quiet ∧ (Call.oneMatch nrSendmsg 3 0).Quiet := by decide
  have hsetown : (Call.twoMatch nrFcntl 2 fSetown 3 pid).Quiet :=
    (by decide : (Call.allow nrFcntl).Quiet)
  have hmodel : ∀ c ∈ modelRules cfg sess.isAnonymous, c.Leaves cfg sess :=
    forall_mem_modelRules leaves_dataConnections leaves_chown ⟨hmsg.1.leaves, hmsg.2.leaves⟩
  refine forall_mem_postlogin (fun c hc => (hquiet c hc).leaves) hsetown.leaves ?_ ?_ hmodel ?_
  · rw [hflag]
    exact leaves_open
  · rw [hflag]
    exact leaves_openat
  · intro hon
    rw [hoff] at hon
    exact absurd hon Bool.false_ne_true

end

/-- Without `write_enable` no call that is let through truncates, renames, removes, changes
times or opens for writing. -/
theorem leftOpen_of_allow (cfg : PolicyTunables) (pid : Int32) (sess : VsfSession)
    (d : SeccompData) (hoff : cfg.writeEnable = false)
    (hallow : firstMatch (seccompSandboxSetupPostlogin cfg pid sess) d = .allow) :
    ∀ e ∈ effects d, LeftOpen cfg sess d e := by
  obtain ⟨c, hc, hmatch, -⟩ := exists_rule_of_allow hallow
  exact leaves_postlogin hoff pid c hc d hmatch

/-- `open(path, O_RDONLY | O_CREAT)`. -/
def creatingOpen : SeccompData where
  nr := nrOpen.toUInt32
  arch := auditArchX8664
  instructionPointer := 0
  args := fun i => if i.val = 1 then oCreat.toUInt32.toUInt64 else 0

theorem leftOpen_creatingOpen :
    .create ∈ effects creatingOpen ∧ LeftOpen {} (localClient true) creatingOpen .create :=
  ⟨by decide, leftOpen_of_allow {} 1 (localClient true) creatingOpen rfl (by decide) .create
    (by decide)⟩

theorem creatingOpen_allowed :
    ∃ (cfg : PolicyTunables) (pid : Int32) (sess : VsfSession) (d : SeccompData),
      cfg.writeEnable = false ∧
      firstMatch (seccompSandboxSetupPostlogin cfg pid sess) d = .allow ∧
      .create ∈ effects d :=
  ⟨{}, 1, localClient true, creatingOpen, rfl, by decide, by decide⟩

end Vsftpd.Seccomp
