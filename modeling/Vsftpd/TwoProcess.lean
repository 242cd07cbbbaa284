import Vsftpd.Convert
import Vsftpd.Secutil
import Vsftpd.Session.PreLogin

/-!
# The two processes and their users

`vsf_two_process_start`, `process_login_req` and `common_do_login` of `twoprocess.c`, as far
as they decide as which user and where the process before the login and the one after it
run.
-/

namespace Vsftpd.TwoProcess

open Vsftpd.Lib Vsftpd.Secutil
open Vsftpd.Session (strContainsLine)

/-- The tunables that are read before the configuration of the user. -/
structure ServerTunables where
  sslEnable : Bool := false
  noprivUser : Option Bytes := some (bytes "nobody")
  secureChrootDir : Option Bytes := some (bytes "/usr/share/empty")
  ftpUsername : Option Bytes := some (bytes "ftp")
  chrootLocalUser : Bool := false
  chrootListEnable : Bool := false
  chrootListFile : Option Bytes := some (bytes "/etc/vsftpd.chroot_list")

/-- The tunables that are read after it. -/
structure UserTunables where
  guestEnable : Bool := false
  guestUsername : Option Bytes := some (bytes "ftp")
  virtualUseLocalPrivs : Bool := false
  allowWriteableChroot : Bool := false
  anonRoot : Option Bytes := none
  localRoot : Option Bytes := none
  userSubToken : Option Bytes := none
  passwdChrootEnable : Bool := false
  noprivUser : Option Bytes := some (bytes "nobody")
  secureChrootDir : Option Bytes := some (bytes "/usr/share/empty")
  sessionSupport : Bool := false
  chownUploads : Bool := false
  connectFromPort20 : Bool := false

/-- The system, with the files that the parent looks at. -/
structure Host (δ : Type) extends Machine δ where
  lstat : Bytes → Bool
  fileread : Bytes → Option Bytes

section
variable {δ : Type}

/-! ## Before the login -/

/-- What `vsf_privop_do_login` found. -/
inductive LoginResult where
  | fail
  | anon
  | real
  deriving DecidableEq, Repr

/-- Whether a local user is to be locked into a directory. -/
def doChroot (cfg : ServerTunables) (host : Host δ) (user : Bytes) : Except Halt Bool :=
  if cfg.chrootListEnable then
    match cfg.chrootListFile.bind host.fileread with
    | none => .error (.die2 "could not read chroot() list file:" (cfg.chrootListFile.getD []))
    | some list =>
      .ok (if strContainsLine list user then !cfg.chrootLocalUser else cfg.chrootLocalUser)
  else .ok cfg.chrootLocalUser

/-- The directory of the user, what is applied in addition, and where to go in the end. -/
structure Dirs where
  userdir : Bytes := []
  chroot : Bytes := []
  chdir : Bytes := []
  deriving DecidableEq, Repr

def subToken (cfg : UserTunables) (s origUser : Bytes) : Bytes :=
  match cfg.userSubToken with
  | none => s
  | some token => strReplaceText s token origUser

def calculateChdirDir (cfg : UserTunables) (host : Host δ) (anonLogin : Bool)
    (user origUser : Bytes) : Except Halt Dirs := do
  let userdir ←
    if anonLogin then .ok []
    else
      match host.getpwnam user with
      | none => .error (.die2 "cannot locate user entry:" user)
      | some entry => .ok (subToken cfg entry.homedir origUser)
  let chroot :=
    if anonLogin then cfg.anonRoot.getD []
    else (cfg.localRoot.map fun root => subToken cfg root origUser).getD []
  if !anonLogin && cfg.passwdChrootEnable && (strLocateText userdir (bytes "/./")).isSome then
    let split := strSplitText userdir (bytes "/./")
    .ok { userdir := split.1, chroot := split.1, chdir := split.2 }
  else .ok { userdir := userdir, chroot := chroot }

/-- The process that serves the client after the login. -/
structure SessionProcess (δ : Type) where
  proc : Proc δ
  isAnonymous : Bool
  isGuest : Bool

/-- The child of `common_do_login`, until it goes on with `process_post_login`. -/
def commonDoLogin (cfg : UserTunables) (host : Host δ) (userStr : Bytes) (doChroot wasAnon : Bool)
    (p : Proc δ) : Except Halt (SessionProcess δ) := do
  let isGuest := cfg.guestEnable && !wasAnon
  let user := if isGuest then cfg.guestUsername.getD [] else userStr
  let anon := if isGuest && !cfg.virtualUseLocalPrivs then true else wasAnon
  let doChroot := if isGuest && !cfg.virtualUseLocalPrivs then true else doChroot
  let dirs ← calculateChdirDir cfg host wasAnon user userStr
  let p ← vsfSecutilChangeCredentials host.toMachine user (some dirs.userdir) (some dirs.chroot) {}
    { useGroups := true
      noProcs := true
      chroot := doChroot
      changeEuid := !anon
      allowWriteableRoot := !wasAnon && cfg.allowWriteableChroot } p
  let p := if dirs.chdir.isEmpty then p else (strChdir host.toMachine p dirs.chdir).1
  .ok { proc := p, isAnonymous := anon, isGuest := isGuest }

/-- `process_login_req`, with what the child then is; `none` is a refused login. -/
def processLoginReq (cfg : ServerTunables) (userCfg : UserTunables) (host : Host δ)
    (result : LoginResult) (userStr : Bytes) (p : Proc δ) :
    Except Halt (Option (SessionProcess δ)) :=
  match result with
  | .fail => .ok none
  | .anon => do
    let sess ← commonDoLogin userCfg host (cfg.ftpUsername.getD []) true true p
    return some sess
  | .real => do
    let chroot ← doChroot cfg host userStr
    let sess ← commonDoLogin userCfg host userStr chroot false p
    return some sess

end

/-! ## Whom the processes run as -/

section
variable {δ : Type} {cfg : ServerTunables} {userCfg : UserTunables} {host : Host δ} {p q : Proc δ}

/-- The process is that of the user for good, without a capability, and it starts no others. -/
structure RunsAs (host : Host δ) (entry : User) (groups : List Nat) (q : Proc δ) : Prop where
  confined : entry.uid ≠ 0 → ∀ calls, Confined entry.uid entry.gid groups ∅ (q.cred.run calls)
  noProcs : q.noProcs = true

/-- The user that a login is served as. -/
def servedUser (cfg : ServerTunables) (userCfg : UserTunables) (result : LoginResult)
    (userStr : Bytes) : Bytes :=
  if result = .anon then cfg.ftpUsername.getD []
  else if userCfg.guestEnable then userCfg.guestUsername.getD []
  else userStr

/-- A guest who is treated like the anonymous user. -/
def Unprivileged (userCfg : UserTunables) (result : LoginResult) : Prop :=
  result = .anon ∨ userCfg.guestEnable = true ∧ userCfg.virtualUseLocalPrivs = false

/-- Whether the list of `chroot_list_file` has the user. -/
def Listed (cfg : ServerTunables) (host : Host δ) (userStr : Bytes) : Prop :=
  cfg.chrootListEnable = true ∧
    ∃ list, cfg.chrootListFile.bind host.fileread = some list ∧ strContainsLine list userStr = true

/-- Who is locked into a directory: the list has the exceptions. -/
def LockedIn (cfg : ServerTunables) (userCfg : UserTunables) (host : Host δ) (result : LoginResult)
    (userStr : Bytes) : Prop :=
  Unprivileged userCfg result ∨ (cfg.chrootLocalUser = true ↔ ¬ Listed cfg host userStr)

/-- The child of `common_do_login`: the user, the directories, and the process `q` as it is
when it has changed its credentials. -/
structure Session (userCfg : UserTunables) (host : Host δ) (user origUser : Bytes)
    (wasAnon locked unprivileged : Bool) (p : Proc δ) (entry : User) (dirs : Dirs) (q : Proc δ)
    (sess : SessionProcess δ) : Prop where
  found : host.getpwnam user = some entry
  calculated : calculateChdirDir userCfg host wasAnon user origUser = .ok dirs
  entered : ∃ r,
    Entering entry (!unprivileged)
      { p with cred := { p.cred with groups := host.groups entry } } r ∧
      enterDirs host.toMachine (jailDir entry (some dirs.userdir)) (some dirs.chroot) locked r =
        .ok { r with cwd := q.cwd }
  root : q.root = if locked then q.cwd else p.root
  noWriteableRoot : locked = true → (wasAnon = true ∨ userCfg.allowWriteableChroot = false) →
    host.writeAccess q = false
  proc : sess.proc =
    if dirs.chdir.isEmpty then q else (strChdir host.toMachine q dirs.chdir).1
  runsAs : RunsAs host entry (host.groups entry) sess.proc
  anonymous : sess.isAnonymous = unprivileged

/-- The name that was given, or the one that the anonymous user gets. -/
def loginName (cfg : ServerTunables) (result : LoginResult) (userStr : Bytes) : Bytes :=
  if result = .anon then cfg.ftpUsername.getD [] else userStr

/-- A session, by the login that it comes from. -/
def Serves (cfg : ServerTunables) (userCfg : UserTunables) (host : Host δ) (result : LoginResult)
    (userStr : Bytes) (p : Proc δ) (sess : SessionProcess δ) : Prop :=
  ∃ locked unprivileged entry dirs q,
    (locked = true ↔ LockedIn cfg userCfg host result userStr) ∧
    (unprivileged = true ↔ Unprivileged userCfg result) ∧
    Session userCfg host (servedUser cfg userCfg result userStr) (loginName cfg result userStr)
      (result = .anon) locked unprivileged p entry dirs q sess

end

end Vsftpd.TwoProcess
