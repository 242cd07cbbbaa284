import Vsftpd.Lib.Credentials
import Vsftpd.Lib.ExceptRules
import Vsftpd.Str

/-!
# Changing the user of a process

`vsf_secutil_change_credentials` and the functions of `sysutil.c` and `sysdeputil.c` that
it calls.
-/

namespace Vsftpd.Secutil

open Vsftpd.Lib

/-- Where the process ends. -/
inductive Halt where
  | die (text : String)
  | die2 (text : String) (arg : Bytes)
  | bug (text : String)
  deriving DecidableEq, Repr

/-- `struct passwd`. -/
structure User where
  name : Bytes
  uid : Nat
  gid : Nat
  homedir : Bytes
  deriving DecidableEq, Repr

/-- A process, over the directories of the file system. -/
structure Proc (δ : Type) where
  cred : Cred
  root : δ
  cwd : δ
  noFds : Bool := false
  noProcs : Bool := false

/-- The system: its users, where `chdir` leads to, and whether `access` finds the root
directory writable. -/
structure Machine (δ : Type) where
  getpwnam : Bytes → Option User
  groups : User → List Nat
  chdir : Proc δ → Bytes → Option δ
  writeAccess : Proc δ → Bool
  hasCapabilities : Bool
  hasCapabilitiesAsNonRoot : Bool

/-- The capabilities that a caller may ask for. -/
structure Caps where
  chown : Bool := false
  netBindService : Bool := false
  deriving DecidableEq, Repr

def Caps.isZero (caps : Caps) : Bool := !caps.chown && !caps.netBindService

structure Options where
  chroot : Bool := false
  useGroups : Bool := false
  changeEuid : Bool := false
  noFds : Bool := false
  noProcs : Bool := false
  allowWriteableRoot : Bool := false
  deriving DecidableEq, Repr

section
variable {δ : Type}

/-! ## The calls -/

/-- A call that changes the credentials. -/
def credCall (text : String) (call : CredCall) (p : Proc δ) : Except Halt (Proc δ) :=
  match p.cred.exec call with
  | some cred => .ok { p with cred := cred }
  | none => .error (.die text)

def vsfSysutilRunningAsRoot (p : Proc δ) : Bool := p.cred.uids.real = 0

def vsfSysutilSetuidNumeric (uid : Nat) : Proc δ → Except Halt (Proc δ) :=
  credCall "setuid" (.setuid uid)

def vsfSysutilSetgidNumeric (gid : Nat) : Proc δ → Except Halt (Proc δ) :=
  credCall "setgid" (.setgid gid)

def vsfSysutilSeteuidNumeric (uid : Nat) : Proc δ → Except Halt (Proc δ) :=
  credCall "seteuid" (.setreuid none (some uid))

def vsfSysutilSetegidNumeric (gid : Nat) : Proc δ → Except Halt (Proc δ) :=
  credCall "setegid" (.setregid none (some gid))

def vsfSysutilClearSuppGroups : Proc δ → Except Halt (Proc δ) :=
  credCall "setgroups" (.setgroups [])

def vsfSysutilInitgroups (m : Machine δ) (user : User) : Proc δ → Except Halt (Proc δ) :=
  credCall "initgroups" (.setgroups (m.groups user))

def vsfSysutilChroot (p : Proc δ) : Except Halt (Proc δ) :=
  if capSysChroot ∈ p.cred.effective then .ok { p with root := p.cwd }
  else .error (.die "chroot")

def vsfSysutilSetNoFds (p : Proc δ) : Proc δ := { p with noFds := true }

def vsfSysutilSetNoProcs (p : Proc δ) : Proc δ := { p with noProcs := true }

/-- The mask that is given to `capset`. -/
def capMask (caps : Caps) : Finset Nat :=
  (if caps.chown then {capChown} else ∅) ∪ (if caps.netBindService then {capNetBindService} else ∅)

def vsfSysdepAdoptCapabilities (caps : Caps) (p : Proc δ) : Except Halt (Proc δ) :=
  if caps.isZero then .error (.bug "asked to adopt no capabilities")
  else credCall "capset" (.capset (capMask caps) (capMask caps)) p

def vsfSysdepKeepCapabilities (m : Machine δ) (p : Proc δ) : Except Halt (Proc δ) :=
  if !m.hasCapabilitiesAsNonRoot then
    .error (.bug "asked to keep capabilities, but no support exists")
  else credCall "prctl" (.keepCaps true) p

/-! ## `vsf_secutil_change_credentials` -/

/-- The directory in which the process is to be. -/
def jailDir (user : User) : Option Bytes → Bytes
  | none => user.homedir
  | some dir => if dir.isEmpty then user.homedir else dir

/-- `str_chdir`, with the return value. -/
def strChdir (m : Machine δ) (p : Proc δ) (dir : Bytes) : Proc δ × Bool :=
  match m.chdir p dir with
  | some cwd => ({ p with cwd := cwd }, true)
  | none => (p, false)

def changeGroups (m : Machine δ) (user : User) (useGroups : Bool) :
    Proc δ → Except Halt (Proc δ) :=
  if useGroups then vsfSysutilInitgroups m user else vsfSysutilClearSuppGroups

/-- The directory, and the one that is applied in addition. -/
def enterDirs (m : Machine δ) (dir : Bytes) (extDir : Option Bytes) (chroot : Bool) (p : Proc δ) :
    Except Halt (Proc δ) :=
  let first := strChdir m p dir
  if !first.2 then .error (.die2 "cannot change directory:" dir)
  else
    match extDir with
    | none => .ok first.1
    | some ext =>
      if ext.isEmpty then .ok first.1
      else
        let second := strChdir m first.1 ext
        if !second.2 && chroot then .error (.die2 "cannot change directory:" ext)
        else .ok second.1

/-- With the effective ids of the user, if that is asked for. -/
def changeDir (m : Machine δ) (user : User) (dir : Bytes) (extDir : Option Bytes)
    (options : Options) (p : Proc δ) : Except Halt (Proc δ) := do
  let savedEuid := p.cred.uids.effective
  let savedEgid := p.cred.gids.effective
  let p ← if options.changeEuid then do
      let p ← vsfSysutilSetegidNumeric user.gid p
      vsfSysutilSeteuidNumeric user.uid p
    else .ok p
  let p ← enterDirs m dir extDir options.chroot p
  let p ← if options.changeEuid then do
      let p ← vsfSysutilSeteuidNumeric savedEuid p
      vsfSysutilSetegidNumeric savedEgid p
    else .ok p
  if options.chroot then vsfSysutilChroot p else .ok p

/-- No new processes, and no root directory that the user can write to. -/
def lastChecks (m : Machine δ) (options : Options) (p : Proc δ) : Except Halt (Proc δ) :=
  let p := if options.noProcs then vsfSysutilSetNoProcs p else p
  if options.chroot && !options.allowWriteableRoot && m.writeAccess p then
    .error (.die "vsftpd: refusing to run with writable root inside chroot()")
  else .ok p

/-- The ids and capabilities, and what follows them. -/
def changeIds (m : Machine δ) (user : User) (caps : Caps) (options : Options) (p : Proc δ) :
    Except Halt (Proc δ) := do
  let p ← if !caps.isZero then vsfSysdepKeepCapabilities m p else .ok p
  let p ← vsfSysutilSetgidNumeric user.gid p
  let p ← vsfSysutilSetuidNumeric user.uid p
  let p ← if !caps.isZero then vsfSysdepAdoptCapabilities caps p else .ok p
  lastChecks m options p

/-- What is left of the privileges. -/
def changePrivileges (m : Machine δ) (user : User) (caps : Caps) (options : Options)
    (p : Proc δ) : Except Halt (Proc δ) :=
  let p := if options.noFds then vsfSysutilSetNoFds p else p
  if !caps.isZero && !m.hasCapabilities then
    -- privilege is needed, and without capabilities that is root
    .ok p
  else if !caps.isZero && !m.hasCapabilitiesAsNonRoot then vsfSysdepAdoptCapabilities caps p
  else changeIds m user caps options p

def vsfSecutilChangeCredentials (m : Machine δ) (userStr : Bytes) (dirStr extDirStr : Option Bytes)
    (caps : Caps) (options : Options) (p : Proc δ) : Except Halt (Proc δ) :=
  if !vsfSysutilRunningAsRoot p then
    .error (.bug "vsf_secutil_change_credentials: not running as root")
  else
    match m.getpwnam userStr with
    | none => .error (.die2 "cannot locate user entry:" userStr)
    | some user => do
      let p ← changeGroups m user options.useGroups p
      let p ← changeDir m user (jailDir user dirStr) extDirStr options p
      changePrivileges m user caps options p

end

/-! ## A process with all its privileges -/

/-- The real and the effective user are the superuser. -/
structure SuperUser (c : Cred) : Prop where
  real : c.uids.real = 0
  effective : c.uids.effective = 0
  caps : c.effective = c.permitted
  setgid : capSetgid ∈ c.permitted
  setuid : capSetuid ∈ c.permitted
  noKeep : c.keepCaps = false

section
variable {δ : Type} {m : Machine δ} {p q : Proc δ} {c d : Cred} {user : User} {caps : Caps}
  {options : Options} {dir : Bytes} {extDir : Option Bytes}

theorem credCall_eq_ok {text : String} {call : CredCall} :
    credCall text call p = .ok q ↔ ∃ c, p.cred.exec call = some c ∧ q = { p with cred := c } := by
  unfold credCall
  cases p.cred.exec call with
  | none => simp
  | some c => simp [eq_comm]

theorem SuperUser.setgid_eff (h : SuperUser c) : decide (capSetgid ∈ c.effective) = true :=
  decide_eq_true (h.caps ▸ h.setgid)

theorem SuperUser.setuid_eff (h : SuperUser c) : decide (capSetuid ∈ c.effective) = true :=
  decide_eq_true (h.caps ▸ h.setuid)

theorem SuperUser.withGroups (h : SuperUser c) (groups : List Nat) :
    SuperUser { c with groups := groups } :=
  ⟨h.real, h.effective, h.caps, h.setgid, h.setuid, h.noKeep⟩

theorem SuperUser.withGids (h : SuperUser c) (gids : Ids) : SuperUser { c with gids := gids } :=
  ⟨h.real, h.effective, h.caps, h.setgid, h.setuid, h.noKeep⟩

theorem changeGroups_eq_ok (h : SuperUser p.cred) {useGroups : Bool}
    (hq : changeGroups m user useGroups p = .ok q) :
    q = { p with cred := { p.cred with groups := if useGroups then m.groups user else [] } } := by
  have hgroups : ∀ groups, p.cred.exec (.setgroups groups) =
      some { p.cred with groups := groups } :=
    fun groups => if_pos (of_decide_eq_true h.setgid_eff)
  unfold changeGroups vsfSysutilInitgroups vsfSysutilClearSuppGroups at hq
  cases useGroups with
  | true =>
      obtain ⟨c, hc, rfl⟩ := credCall_eq_ok.mp hq
      rw [hgroups] at hc
      cases hc
      rfl
  | false =>
      obtain ⟨c, hc, rfl⟩ := credCall_eq_ok.mp hq
      rw [hgroups] at hc
      cases hc
      rfl

theorem strChdir_eq (m : Machine δ) (r : Proc δ) (dir : Bytes) :
    (strChdir m r dir).1 = { r with cwd := (strChdir m r dir).1.cwd } := by
  unfold strChdir
  cases m.chdir r dir <;> rfl

/-- Going into the directories leaves the rest of the process alone. -/
theorem enterDirs_eq_ok {chroot : Bool} (h : enterDirs m dir extDir chroot p = .ok q) :
    q = { p with cwd := q.cwd } := by
  unfold enterDirs at h
  obtain ⟨-, h⟩ := guard_eq_ok_iff.mp h
  have hfirst := strChdir_eq m p dir
  cases extDir with
  | none =>
      cases h
      exact hfirst
  | some ext =>
      dsimp only at h
      split_ifs at h
      · cases h
        exact hfirst
      · cases h
        rw [strChdir_eq m _ ext, hfirst]

theorem setegid_eq_ok (h : SuperUser p.cred) {gid : Nat}
    (hq : vsfSysutilSetegidNumeric gid p = .ok q) :
    ∃ gids : Ids, gids.effective = gid ∧ q = { p with cred := { p.cred with gids := gids } } := by
  obtain ⟨c, hc, rfl⟩ := credCall_eq_ok.mp hq
  obtain ⟨gids, hids, rfl⟩ := Option.map_eq_some_iff.mp hc
  rw [h.setgid_eff] at hids
  refine ⟨gids, ?_, rfl⟩
  unfold Ids.setReId at hids
  obtain ⟨-, hids⟩ := Option.ite_none_right_eq_some.mp hids
  cases hids
  split_ifs <;> rfl

/-- The superuser with the effective id of a user. -/
structure AsUser (uid : Nat) (c d : Cred) : Prop where
  real : d.uids.real = 0
  effective : d.uids.effective = uid
  gids : d.gids = c.gids
  groups : d.groups = c.groups
  permitted : d.permitted = c.permitted
  keepCaps : d.keepCaps = c.keepCaps
  caps : uid = 0 → d.effective = d.permitted

theorem setReId_effective {privileged : Bool} {i j : Ids} {n : Nat}
    (h : i.setReId privileged none (some n) = some j) : j.real = i.real ∧ j.effective = n := by
  unfold Ids.setReId at h
  obtain ⟨-, h⟩ := Option.ite_none_right_eq_some.mp h
  cases h
  split_ifs <;> exact ⟨rfl, rfl⟩

/-- As long as the real user is the superuser, no capability is lost for good. -/
theorem setUids_permitted {uids : Ids} (h : uids.real = 0) :
    (c.setUids uids).permitted = c.permitted := by
  have hroot : Cred.hasRoot uids = true := by simp [Cred.hasRoot, h]
  unfold Cred.setUids
  rw [hroot]
  simp

theorem setUids_stays {uids : Ids} (hold : c.uids.effective = 0) (h : uids.effective = 0)
    (hreal : uids.real = 0) : (c.setUids uids).effective = c.effective := by
  have hroot : Cred.hasRoot uids = true := by simp [Cred.hasRoot, hreal]
  unfold Cred.setUids
  rw [hroot]
  simp [hold, h]

/-- With the effective id of the superuser all that is permitted is effective again. -/
theorem setUids_regains {uids : Ids} (hold : c.uids.effective ≠ 0) (h : uids.effective = 0)
    (hreal : uids.real = 0) : (c.setUids uids).effective = c.permitted := by
  have hroot : Cred.hasRoot uids = true := by simp [Cred.hasRoot, hreal]
  unfold Cred.setUids
  rw [hroot]
  simp [hold, h]

theorem seteuid_eq_ok (h : SuperUser p.cred) {uid : Nat}
    (hq : vsfSysutilSeteuidNumeric uid p = .ok q) :
    AsUser uid p.cred q.cred ∧ q = { p with cred := q.cred } := by
  obtain ⟨c, hc, rfl⟩ := credCall_eq_ok.mp hq
  obtain ⟨uids, hids, rfl⟩ := Option.map_eq_some_iff.mp hc
  obtain ⟨hreal, heffective⟩ := setReId_effective hids
  rw [h.real] at hreal
  refine ⟨⟨hreal, heffective, rfl, rfl, setUids_permitted hreal, rfl, fun hzero => ?_⟩, rfl⟩
  rw [setUids_stays h.effective (heffective.trans hzero) hreal, setUids_permitted hreal, h.caps]

/-- Back to the effective id of the superuser, with all the capabilities. -/
theorem AsUser.restore (h : SuperUser c) {uid : Nat} (hp : AsUser uid c p.cred)
    (hq : vsfSysutilSeteuidNumeric 0 p = .ok q) :
    SuperUser q.cred ∧ q.cred.groups = c.groups ∧ q = { p with cred := q.cred } := by
  obtain ⟨d, hd, rfl⟩ := credCall_eq_ok.mp hq
  obtain ⟨uids, hids, rfl⟩ := Option.map_eq_some_iff.mp hd
  obtain ⟨hreal, heffective⟩ := setReId_effective hids
  rw [hp.real] at hreal
  have hpermitted : (p.cred.setUids uids).permitted = c.permitted :=
    (setUids_permitted hreal).trans hp.permitted
  have hcaps : (p.cred.setUids uids).effective = c.permitted := by
    by_cases hzero : uid = 0
    · rw [setUids_stays (hp.effective.trans hzero) heffective hreal, hp.caps hzero, hp.permitted]
    · have hold : p.cred.uids.effective ≠ 0 := fun h0 => hzero (hp.effective.symm.trans h0)
      rw [setUids_regains hold heffective hreal, hp.permitted]
  refine ⟨⟨hreal, heffective, hcaps.trans hpermitted.symm, ?_, ?_, ?_⟩, hp.groups, rfl⟩
  · rw [hpermitted]
    exact h.setgid
  · rw [hpermitted]
    exact h.setuid
  · exact hp.keepCaps.trans h.noKeep

/-- What the process is like while it goes into the directories. -/
structure Entering (user : User) (changeEuid : Bool) (p r : Proc δ) : Prop where
  same : r = { p with cred := r.cred }
  groups : r.cred.groups = p.cred.groups
  asUser : changeEuid = true →
    r.cred.uids.effective = user.uid ∧ r.cred.gids.effective = user.gid
  asRoot : changeEuid = false → r.cred = p.cred

/-- The change of directory, after which the process is the superuser as before. -/
structure Moved (m : Machine δ) (user : User) (dir : Bytes) (extDir : Option Bytes)
    (options : Options) (p q : Proc δ) : Prop where
  super : SuperUser q.cred
  groups : q.cred.groups = p.cred.groups
  entered : ∃ r, Entering user options.changeEuid p r ∧
    enterDirs m dir extDir options.chroot r = .ok { r with cwd := q.cwd }
  root : q.root = if options.chroot then q.cwd else p.root
  noFds : q.noFds = p.noFds
  noProcs : q.noProcs = p.noProcs

theorem changeDir_eq_ok (h : SuperUser p.cred)
    (hq : changeDir m user dir extDir options p = .ok q) : Moved m user dir extDir options p q := by
  unfold changeDir at hq
  dsimp only at hq
  have hroot : ∀ {r : Proc δ}, SuperUser r.cred → r.cred.groups = p.cred.groups →
      (∃ r', Entering user options.changeEuid p r' ∧
        enterDirs m dir extDir options.chroot r' = .ok { r' with cwd := r.cwd }) →
      r.root = p.root → r.noFds = p.noFds → r.noProcs = p.noProcs →
      (if options.chroot then vsfSysutilChroot r else .ok r) = .ok q →
      Moved m user dir extDir options p q := by
    intro r hsuper hgroups hentered hr hfds hprocs hq
    cases hchroot : options.chroot with
    | true =>
        rw [hchroot, if_pos rfl] at hq
        unfold vsfSysutilChroot at hq
        split_ifs at hq
        cases hq
        exact ⟨hsuper, hgroups, hentered, by rw [hchroot]; rfl, hfds, hprocs⟩
    | false =>
        rw [hchroot, if_neg (by decide)] at hq
        cases hq
        exact ⟨hsuper, hgroups, hentered, by rw [hchroot]; exact hr, hfds, hprocs⟩
  cases heuid : options.changeEuid with
  | false =>
      simp only [heuid, Bool.false_eq_true, if_false, ok_bind] at hq
      obtain ⟨r, hr, hq⟩ := bind_eq_ok hq
      have hsame := enterDirs_eq_ok hr
      have hcred : r.cred = p.cred := by rw [hsame]
      have hentering : Entering user options.changeEuid p p :=
        ⟨rfl, rfl, fun heq => absurd (heuid.symm.trans heq) Bool.false_ne_true, fun _ => rfl⟩
      refine hroot (by rw [hcred]; exact h) (by rw [hcred]) ⟨p, hentering, ?_⟩ ?_ ?_ ?_ hq
      · rw [hr]
        exact congrArg Except.ok hsame
      · rw [hsame]
      · rw [hsame]
      · rw [hsame]
  | true =>
      simp only [heuid, if_true] at hq
      obtain ⟨p1, hp1, hq⟩ := bind_eq_ok hq
      obtain ⟨p2, hp2, hq⟩ := bind_eq_ok hq
      obtain ⟨p3, hp3, hq⟩ := bind_eq_ok hq
      obtain ⟨p4, hp4, hq⟩ := bind_eq_ok hq
      obtain ⟨p5, hp5, hq⟩ := bind_eq_ok hq
      obtain ⟨gids, hgid, rfl⟩ := setegid_eq_ok h hp1
      have h1 : SuperUser { p.cred with gids := gids } := h.withGids gids
      obtain ⟨has, hsame2⟩ := seteuid_eq_ok h1 hp2
      have hsame3 := enterDirs_eq_ok hp3
      have hcred3 : p3.cred = p2.cred := by rw [hsame3]
      rw [h.effective] at hp4
      rw [← hcred3] at has
      obtain ⟨h4, hgroups4, hsame4⟩ := has.restore h1 hp4
      obtain ⟨gids5, -, rfl⟩ := setegid_eq_ok h4 hp5
      have hentering : Entering user options.changeEuid p p2 := by
        refine ⟨?_, ?_, fun _ => ⟨?_, ?_⟩,
          fun heq => absurd (heq.symm.trans heuid) Bool.false_ne_true⟩
        · rw [hsame2]
        · rw [← hcred3]
          exact has.groups
        · rw [← hcred3]
          exact has.effective
        · rw [← hcred3, has.gids]
          exact hgid
      refine hroot (r := { p4 with cred := { p4.cred with gids := gids5 } }) (h4.withGids gids5)
        hgroups4 ⟨p2, hentering, ?_⟩ ?_ ?_ ?_ hq
      · rw [hp3, hsame4]
        exact congrArg Except.ok hsame3
      · rw [hsame4, hsame3, hsame2]
      · rw [hsame4, hsame3, hsame2]
      · rw [hsame4, hsame3, hsame2]

/-! ## The privileges go -/

/-- The system can do without the superuser, or nothing is asked for. -/
def Droppable (m : Machine δ) (caps : Caps) : Prop :=
  caps.isZero = true ∨ m.hasCapabilities = true ∧ m.hasCapabilitiesAsNonRoot = true

/-- The ids are those of the user, with the capabilities that were asked for. -/
structure Dropped (m : Machine δ) (user : User) (caps : Caps) (options : Options)
    (p q : Proc δ) : Prop where
  confined : user.uid ≠ 0 →
    Confined user.uid user.gid p.cred.groups (capMask caps) q.cred ∧
      q.cred.permitted = capMask caps ∧ q.cred.effective = capMask caps
  dirs : q.root = p.root ∧ q.cwd = p.cwd
  noFds : q.noFds = p.noFds
  noProcs : options.noProcs = true → q.noProcs = true
  noWriteableRoot : options.chroot = true → options.allowWriteableRoot = false →
    m.writeAccess q = false

theorem setgid_eq_ok (hcap : capSetgid ∈ p.cred.effective) {gid : Nat}
    (hq : vsfSysutilSetgidNumeric gid p = .ok q) :
    q = { p with cred := { p.cred with gids := .all gid } } := by
  obtain ⟨c, hc, rfl⟩ := credCall_eq_ok.mp hq
  obtain ⟨gids, hids, rfl⟩ := Option.map_eq_some_iff.mp hc
  rw [decide_eq_true hcap] at hids
  cases hids
  rfl

theorem setuid_eq_ok (hcap : capSetuid ∈ p.cred.effective) {uid : Nat}
    (hq : vsfSysutilSetuidNumeric uid p = .ok q) :
    q = { p with cred := p.cred.setUids (.all uid) } := by
  obtain ⟨c, hc, rfl⟩ := credCall_eq_ok.mp hq
  obtain ⟨uids, hids, rfl⟩ := Option.map_eq_some_iff.mp hc
  rw [decide_eq_true hcap] at hids
  cases hids
  rfl

/-- With the last id of the superuser the capabilities go, if they are not kept. -/
theorem setUids_drops (hreal : c.uids.real = 0) (heffective : c.uids.effective = 0) {uid : Nat}
    (huid : uid ≠ 0) :
    (c.setUids (.all uid)).effective = ∅ ∧
      (c.setUids (.all uid)).permitted = if c.keepCaps then c.permitted else ∅ := by
  have hroot : Cred.hasRoot c.uids = true := by simp [Cred.hasRoot, hreal]
  unfold Cred.setUids
  rw [hroot, Cred.hasRoot_all huid]
  cases c.keepCaps <;> simp [heffective, Ids.all, huid]

theorem capMask_zero (h : caps.isZero = true) : capMask caps = ∅ := by
  unfold Caps.isZero at h
  unfold capMask
  simp only [Bool.and_eq_true, Bool.not_eq_true'] at h
  rw [h.1, h.2]
  rfl

theorem capMask_harmless (caps : Caps) : capSetuid ∉ capMask caps ∧ capSetgid ∉ capMask caps := by
  obtain ⟨chown, net⟩ := caps
  cases chown <;> cases net <;> decide

theorem lastChecks_eq_ok (hq : lastChecks m options p = .ok q) :
    q = { p with noProcs := q.noProcs } ∧ (options.noProcs = true → q.noProcs = true) ∧
      (options.chroot = true → options.allowWriteableRoot = false → m.writeAccess q = false) := by
  obtain ⟨hroot, hq⟩ := guard_eq_ok_iff.mp hq
  cases hq
  refine ⟨?_, fun h => ?_, fun hchroot hwriteable => ?_⟩
  · split_ifs <;> rfl
  · rw [if_pos h]
    rfl
  · simpa [hchroot, hwriteable] using hroot

/-- The ids of the user, from the superuser. -/
theorem setIds_eq_ok {r : Proc δ} (h : SuperUser { p.cred with keepCaps := false })
    (hgid : vsfSysutilSetgidNumeric user.gid p = .ok r)
    (huid : vsfSysutilSetuidNumeric user.uid r = .ok q) :
    q = { p with
      cred := ({ p.cred with gids := .all user.gid } : Cred).setUids (.all user.uid) } := by
  have hcaps : capSetgid ∈ p.cred.effective := of_decide_eq_true h.setgid_eff
  obtain rfl := setgid_eq_ok hcaps hgid
  have hcaps : capSetuid ∈ p.cred.effective := of_decide_eq_true h.setuid_eff
  exact setuid_eq_ok (p := { p with cred := { p.cred with gids := .all user.gid } }) hcaps huid

theorem keepCapabilities_eq_ok (hq : vsfSysdepKeepCapabilities m p = .ok q) :
    q = { p with cred := { p.cred with keepCaps := true } } := by
  unfold vsfSysdepKeepCapabilities at hq
  obtain ⟨-, hq⟩ := guard_eq_ok_iff.mp hq
  obtain ⟨c, hc, rfl⟩ := credCall_eq_ok.mp hq
  cases hc
  rfl

theorem adoptCapabilities_eq_ok (hq : vsfSysdepAdoptCapabilities caps p = .ok q) :
    q = { p with
      cred := { p.cred with permitted := capMask caps, effective := capMask caps } } := by
  unfold vsfSysdepAdoptCapabilities at hq
  obtain ⟨-, hq⟩ := guard_eq_ok_iff.mp hq
  obtain ⟨c, hc, rfl⟩ := credCall_eq_ok.mp hq
  obtain ⟨-, hc⟩ := Option.ite_none_right_eq_some.mp hc
  cases hc
  rfl

theorem changeIds_eq_ok (h : SuperUser p.cred) (hq : changeIds m user caps options p = .ok q) :
    Dropped m user caps options p q := by
  unfold changeIds at hq
  cases hzero : caps.isZero with
  | true =>
      simp only [hzero, Bool.not_true, Bool.false_eq_true, if_false, ok_bind] at hq
      obtain ⟨p1, hp1, hq⟩ := bind_eq_ok hq
      obtain ⟨p2, hp2, hq⟩ := bind_eq_ok hq
      have hnoKeep : { p.cred with keepCaps := false } = p.cred := by rw [← h.noKeep]
      obtain rfl := setIds_eq_ok (hnoKeep.symm ▸ h) hp1 hp2
      obtain ⟨hsame, hprocs, hroot⟩ := lastChecks_eq_ok hq
      refine ⟨fun huid => ?_, ?_, ?_, hprocs, hroot⟩
      · obtain ⟨heffective, hpermitted⟩ :=
          setUids_drops (c := { p.cred with gids := .all user.gid }) h.real h.effective huid
        rw [if_neg (by rw [h.noKeep]; decide)] at hpermitted
        rw [hsame, capMask_zero hzero]
        exact ⟨⟨rfl, rfl, rfl, hpermitted.subset, (heffective.trans hpermitted.symm).subset⟩,
          hpermitted, heffective⟩
      · rw [hsame]
        exact ⟨rfl, rfl⟩
      · rw [hsame]
  | false =>
      simp only [hzero, Bool.not_false, if_true] at hq
      obtain ⟨p1, hp1, hq⟩ := bind_eq_ok hq
      obtain ⟨p2, hp2, hq⟩ := bind_eq_ok hq
      obtain ⟨p3, hp3, hq⟩ := bind_eq_ok hq
      obtain ⟨p4, hp4, hq⟩ := bind_eq_ok hq
      obtain rfl := keepCapabilities_eq_ok hp1
      have hkeep : SuperUser { p.cred with keepCaps := false } :=
        ⟨h.real, h.effective, h.caps, h.setgid, h.setuid, rfl⟩
      obtain rfl :=
        setIds_eq_ok (p := { p with cred := { p.cred with keepCaps := true } }) hkeep hp2 hp3
      obtain rfl := adoptCapabilities_eq_ok hp4
      obtain ⟨hsame, hprocs, hroot⟩ := lastChecks_eq_ok hq
      refine ⟨fun _ => ?_, ?_, ?_, hprocs, hroot⟩
      · rw [hsame]
        exact ⟨⟨rfl, rfl, rfl, Finset.Subset.refl _, Finset.Subset.refl _⟩, rfl, rfl⟩
      · rw [hsame]
        exact ⟨rfl, rfl⟩
      · rw [hsame]

/-- The process is the user's, with exactly the capabilities that were asked for, and later
calls bring it nothing else. -/
structure Becomes (user : User) (groups : List Nat) (caps : Caps) (c : Cred) : Prop where
  permitted : c.permitted = capMask caps
  effective : c.effective = capMask caps
  confined : ∀ calls, Confined user.uid user.gid groups (capMask caps) (c.run calls)

/-- The user of the process is still the superuser. -/
def StaysRoot (c : Cred) : Prop := c.uids.real = 0 ∧ c.uids.effective = 0

/-- What a successful call has made of the process. -/
structure Changed (m : Machine δ) (user : User) (dir : Bytes) (extDir : Option Bytes)
    (caps : Caps) (options : Options) (p q : Proc δ) : Prop where
  /-- The privileges are gone for good, unless the user is the superuser. -/
  becomes : Droppable m caps → user.uid ≠ 0 →
    Becomes user (if options.useGroups then m.groups user else []) caps q.cred
  /-- A system that cannot do without the superuser stays with it. -/
  stays : ¬ Droppable m caps → StaysRoot q.cred
  /-- The directories were entered by the user when that was asked for. -/
  entered : ∃ r, Entering user options.changeEuid
      { p with cred :=
        { p.cred with groups := if options.useGroups then m.groups user else [] } } r ∧
    enterDirs m dir extDir options.chroot r = .ok { r with cwd := q.cwd }
  root : q.root = if options.chroot then q.cwd else p.root
  noFds : options.noFds = true → q.noFds = true
  noProcs : Droppable m caps → options.noProcs = true → q.noProcs = true
  noWriteableRoot : Droppable m caps → options.chroot = true →
    options.allowWriteableRoot = false → m.writeAccess q = false

/-- What follows the change of directory. -/
structure Reduced (m : Machine δ) (user : User) (caps : Caps) (options : Options)
    (p q : Proc δ) : Prop where
  becomes : Droppable m caps → user.uid ≠ 0 → Becomes user p.cred.groups caps q.cred
  stays : ¬ Droppable m caps → StaysRoot q.cred
  dirs : q.root = p.root ∧ q.cwd = p.cwd
  noFds : options.noFds = true → q.noFds = true
  noProcs : Droppable m caps → options.noProcs = true → q.noProcs = true
  noWriteableRoot : Droppable m caps → options.chroot = true →
    options.allowWriteableRoot = false → m.writeAccess q = false

theorem changePrivileges_eq_ok (h : SuperUser p.cred)
    (hq : changePrivileges m user caps options p = .ok q) : Reduced m user caps options p q := by
  have hfds : ∀ s, (if options.noFds then vsfSysutilSetNoFds p else p) = s →
      s.cred = p.cred ∧ (s.root = p.root ∧ s.cwd = p.cwd) ∧
        (options.noFds = true → s.noFds = true) := by
    intro s hs
    rw [← hs]
    cases options.noFds with
    | true => exact ⟨rfl, ⟨rfl, rfl⟩, fun _ => rfl⟩
    | false => exact ⟨rfl, ⟨rfl, rfl⟩, fun h => absurd h Bool.false_ne_true⟩
  unfold changePrivileges at hq
  dsimp only at hq
  generalize hs : (if options.noFds then vsfSysutilSetNoFds p else p) = s at hq
  obtain ⟨hcred, hdirs, hnoFds⟩ := hfds s hs
  have hsuper : SuperUser s.cred := hcred ▸ h
  -- the superuser stays what it is
  have hkept : ¬ Droppable m caps → StaysRoot q.cred → q.root = s.root ∧ q.cwd = s.cwd →
      q.noFds = s.noFds → Reduced m user caps options p q := by
    intro hnot hstays hq hfds
    refine ⟨fun h => absurd h hnot, fun _ => hstays, ⟨hq.1.trans hdirs.1, hq.2.trans hdirs.2⟩,
      fun h => hfds.trans (hnoFds h), fun h => absurd h hnot, fun h => absurd h hnot⟩
  split_ifs at hq with hnone hroot
  · cases hq
    have hnot : ¬ Droppable m caps := by
      simp only [Bool.and_eq_true, Bool.not_eq_true'] at hnone
      simp [Droppable, hnone.1, hnone.2]
    exact hkept hnot ⟨hsuper.real, hsuper.effective⟩ ⟨rfl, rfl⟩ rfl
  · obtain rfl := adoptCapabilities_eq_ok hq
    have hnot : ¬ Droppable m caps := by
      simp only [Bool.and_eq_true, Bool.not_eq_true'] at hroot
      simp [Droppable, hroot.1, hroot.2]
    exact hkept hnot ⟨hsuper.real, hsuper.effective⟩ ⟨rfl, rfl⟩ rfl
  · obtain ⟨hconfined, hsame, hfds, hprocs, hwriteable⟩ := changeIds_eq_ok hsuper hq
    have hdrop : Droppable m caps := by
      unfold Droppable
      cases hzero : caps.isZero with
      | true => exact .inl rfl
      | false =>
          simp only [hzero, Bool.not_false, Bool.true_and, Bool.not_eq_true', Bool.not_eq_false]
            at hnone hroot
          exact .inr ⟨hnone, hroot⟩
    refine ⟨fun _ huid => ?_, fun hnot => absurd hdrop hnot,
      ⟨hsame.1.trans hdirs.1, hsame.2.trans hdirs.2⟩, fun h => hfds.trans (hnoFds h),
      fun _ => hprocs, fun _ => hwriteable⟩
    obtain ⟨hconfined, hpermitted, heffective⟩ := hconfined huid
    rw [hcred] at hconfined
    refine ⟨hpermitted, heffective, fun calls => ?_⟩
    exact hconfined.run huid (capMask_harmless caps).1 (capMask_harmless caps).2 calls

/-- `vsf_secutil_change_credentials`, called by the superuser. -/
theorem vsfSecutilChangeCredentials_changed {userStr : Bytes} {dirStr extDirStr : Option Bytes}
    (h : SuperUser p.cred)
    (hq : vsfSecutilChangeCredentials m userStr dirStr extDirStr caps options p = .ok q) :
    ∃ user, m.getpwnam userStr = some user ∧
      Changed m user (jailDir user dirStr) extDirStr caps options p q := by
  unfold vsfSecutilChangeCredentials at hq
  obtain ⟨-, hq⟩ := guard_eq_ok_iff.mp hq
  cases huser : m.getpwnam userStr with
  | none =>
      rw [huser] at hq
      cases hq
  | some user =>
      rw [huser] at hq
      refine ⟨user, rfl, ?_⟩
      obtain ⟨p1, hp1, hrest⟩ := bind_eq_ok hq
      obtain ⟨p2, hp2, hlast⟩ := bind_eq_ok hrest
      obtain rfl := changeGroups_eq_ok h hp1
      have hstart : SuperUser
          { p.cred with groups := if options.useGroups then m.groups user else [] } :=
        h.withGroups _
      obtain ⟨hsuper, hgroups, hentered, hroot, -, -⟩ :=
        changeDir_eq_ok (p := { p with cred := { p.cred with groups := _ } }) hstart hp2
      obtain ⟨hbecomes, hstays, hdirs, hfds, hprocs, hwriteable⟩ :=
        changePrivileges_eq_ok hsuper hlast
      rw [hgroups] at hbecomes
      refine ⟨hbecomes, hstays, ?_, ?_, hfds, hprocs, hwriteable⟩
      · rw [hdirs.2]
        exact hentered
      · rw [hdirs.1, hdirs.2]
        exact hroot

end

/-- The credentials of the daemon. -/
def daemonCred : Cred where
  uids := .all 0
  gids := .all 0
  groups := [0]
  permitted := {capChown, capSetgid, capSetuid, capNetBindService, capSysChroot}
  effective := {capChown, capSetgid, capSetuid, capNetBindService, capSysChroot}

theorem daemonCred_super : SuperUser daemonCred :=
  ⟨rfl, rfl, rfl, by decide, by decide, rfl⟩

/-- A system with one user, whose directory is 1. -/
def ftpMachine : Machine Nat where
  getpwnam _ := some { name := bytes "ftp", uid := 14, gid := 50, homedir := bytes "/srv/ftp" }
  groups _ := [50]
  chdir _ _ := some 1
  writeAccess _ := false
  hasCapabilities := true
  hasCapabilitiesAsNonRoot := true

/-- The process of the one process model, which may change the owner of uploads. -/
theorem vsfSecutilChangeCredentials_changed_ftp :
    ∃ q, vsfSecutilChangeCredentials ftpMachine (bytes "ftp") none none { chown := true }
        { chroot := true, useGroups := true, noProcs := true }
        { cred := daemonCred, root := 0, cwd := 0 } = .ok q ∧ q.root = 1 ∧
      ∃ user, ftpMachine.getpwnam (bytes "ftp") = some user ∧
        Changed ftpMachine user (jailDir user none) none { chown := true }
          { chroot := true, useGroups := true, noProcs := true }
          { cred := daemonCred, root := 0, cwd := 0 } q :=
  ⟨_, rfl, rfl, vsfSecutilChangeCredentials_changed daemonCred_super rfl⟩

end Vsftpd.Secutil
