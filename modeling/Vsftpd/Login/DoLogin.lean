import Vsftpd.Logging
import Vsftpd.Session.PreLogin
import Vsftpd.TwoProcess

/-!
# Checking a login

`vsf_privop_do_login` of `privops.c`.  The password database is behind
`vsf_sysdep_check_auth`, which may also change the name of the user.
-/

namespace Vsftpd.Login

open Vsftpd.Lib
open Vsftpd.Logging (vsfSysutilIsprint)
open Vsftpd.Session (isAnonName strContainsLine)
open Vsftpd.TwoProcess (LoginResult)

structure Tunables where
  anonymousEnable : Bool := true
  localEnable : Bool := false
  sslEnable : Bool := false
  ftpUsername : Option Bytes := some (bytes "ftp")
  delayFailedLogin : Nat := 1
  delaySuccessfulLogin : Nat := 0

/-- The part of `struct vsf_session` that is used before the login, and the world. -/
structure LoginSession (W : Type) where
  userStr : Bytes := []
  anonPassStr : Bytes := []
  bannedEmailStr : Bytes := []
  emailPasswordsStr : Bytes := []
  remoteIpStr : Bytes := []
  controlUseSsl : Int := 0
  dataUseSsl : Int := 0
  /-- `log_type` is not 0. -/
  logPending : Bool := false
  world : W

/-- What the parent does; the check of a password comes with its answer and the name that it
leaves behind. -/
inductive Event where
  | checkAuth (user pass remoteHost : Bytes) (answer : Bool) (name : Bytes)
  | log (succeeded : Bool) (user anonPass : Bytes)
  | sleep (seconds : Nat)
  | sendResult (res : UInt8)
  deriving DecidableEq, Repr

/-- A login that is granted. -/
structure Grant where
  result : LoginResult
  userStr : Bytes
  anonPassStr : Bytes
  controlUseSsl : Int
  dataUseSsl : Int
  deriving DecidableEq, Repr

/-- `waiting` is for a request that has not come. -/
inductive Halt where
  | die (text : String)
  | bug (text : String)
  | waiting
  | loggedIn (grant : Grant)
  deriving DecidableEq, Repr

/-- The system: the check of a password, and the write of an answer to the child. -/
structure Host (W : Type) where
  checkAuth : (user pass remoteHost : Bytes) → W → (Bool × Bytes) × W
  write : UInt8 → W → Bool × W

abbrev M (W : Type) := Prog Event (LoginSession W) Halt

variable {W : Type}

/-! ## Names -/

def vsftpUsernameMax : Nat := 128
def vsftpPasswordMax : Nat := 128

/-- In the locale C. -/
def vsfSysutilIsalnum (c : UInt8) : Bool := 48 ≤ c ∧ c ≤ 57 ∨ 65 ≤ c ∧ c ≤ 90 ∨ 97 ≤ c ∧ c ≤ 122

def strContainsSpace (s : Bytes) : Bool := s.any isspace

def strContainsUnprintable (s : Bytes) : Bool := s.any fun c => !vsfSysutilIsprint c

/-- A letter, a digit, `_` or `.`. -/
def firstCharOk (c : UInt8) : Bool := vsfSysutilIsalnum c || c = 95 || c = 46

section
variable (cfg : Tunables) (host : Host W)

/-! ## The code -/

def setupUsernameGlobals (user : Bytes) : M W Unit :=
  Prog.modify fun s => { s with userStr := user }

def handleAnonymousLogin (pass : Bytes) : M W LoginResult := do
  let s ← Prog.get
  if !strIsempty s.bannedEmailStr && strContainsLine s.bannedEmailStr pass then pure .fail
  else if !strIsempty s.emailPasswordsStr &&
      (!strContainsLine s.emailPasswordsStr pass || strIsempty pass) then pure .fail
  else do
    let shown := if strIsempty pass then bytes "?" else pass
    Prog.modify fun s =>
      { s with anonPassStr := strReplaceChar (strReplaceChar shown 32 95) 10 63 }
    setupUsernameGlobals (cfg.ftpUsername.getD [])
    Prog.modify fun s => { s with bannedEmailStr := [], emailPasswordsStr := [] }
    pure .anon

/-- `vsf_sysdep_check_auth` is given the name of the session, and may write to it. -/
def vsfSysdepCheckAuth (pass : Bytes) : M W Bool :=
  Prog.emit
    (fun s =>
      let answer := (host.checkAuth s.userStr pass s.remoteIpStr s.world).1
      .checkAuth s.userStr pass s.remoteIpStr answer.1 answer.2)
    fun s =>
      let r := host.checkAuth s.userStr pass s.remoteIpStr s.world
      (r.1.1, { s with userStr := r.1.2, world := r.2 })

def handleLocalLogin (pass : Bytes) : M W LoginResult := do
  let ok ← vsfSysdepCheckAuth host pass
  if ok then do
    let s ← Prog.get
    setupUsernameGlobals s.userStr
    pure .real
  else pure .fail

def handleLogin (pass : Bytes) : M W LoginResult := do
  let s ← Prog.get
  let user := s.userStr
  if user.length = 0 ∨ user.length > vsftpUsernameMax then pure .fail
  else if !firstCharOk (user.headD 0) then pure .fail
  else if strContainsSpace user || strContainsUnprintable user then pure .fail
  else if pass.length > vsftpPasswordMax then pure .fail
  else if cfg.anonymousEnable && isAnonName user then handleAnonymousLogin cfg pass
  else if !cfg.localEnable then Prog.halt (.die "unexpected local login in handle_login")
  else handleLocalLogin host pass

def vsfLogStartEntry : M W Unit := do
  let s ← Prog.get
  if s.logPending then Prog.halt (.bug "non null log_type in vsf_log_start_entry")
  else Prog.modify fun s => { s with logPending := true }

def vsfLogDoLog (succeeded : Bool) : M W Unit :=
  Prog.emit (fun s => .log succeeded s.userStr s.anonPassStr)
    fun s => ((), { s with logPending := false })

def vsfSysutilSleep (seconds : Nat) : M W Unit :=
  Prog.emit (fun _ => .sleep seconds) fun s => ((), s)

/-- The log entry of a login, and the delay after it. -/
def logLogin (result : LoginResult) : M W Unit := do
  vsfLogStartEntry
  if result = .fail then do
    vsfLogDoLog false
    Prog.whenever (cfg.delayFailedLogin > 0) (vsfSysutilSleep cfg.delayFailedLogin)
  else do
    vsfLogDoLog true
    Prog.whenever (cfg.delaySuccessfulLogin > 0) (vsfSysutilSleep cfg.delaySuccessfulLogin)

def vsfPrivopDoLogin (pass : Bytes) : M W LoginResult := do
  let result ← handleLogin cfg host pass
  logLogin cfg result
  pure result

end

/-! ## Who is let in -/

/-- What every name and password has to be like. -/
structure WellFormed (user pass : Bytes) : Prop where
  notEmpty : user ≠ []
  userShort : user.length ≤ vsftpUsernameMax
  first : firstCharOk (user.headD 0) = true
  noSpace : ∀ c ∈ user, isspace c = false
  printable : ∀ c ∈ user, vsfSysutilIsprint c = true
  passShort : pass.length ≤ vsftpPasswordMax

/-- The two lists of e-mail addresses let the password of an anonymous user through. -/
def EmailsAdmit (s : LoginSession W) (pass : Bytes) : Prop :=
  (s.bannedEmailStr ≠ [] → strContainsLine s.bannedEmailStr pass = false) ∧
    (s.emailPasswordsStr ≠ [] →
      strContainsLine s.emailPasswordsStr pass = true ∧ pass ≠ [])

/-- The name is that of the anonymous user. -/
def IsAnonymous (cfg : Tunables) (user : Bytes) : Prop :=
  cfg.anonymousEnable = true ∧ isAnonName user = true

/-- The anonymous password as it is shown. -/
def shownPass (pass : Bytes) : Bytes :=
  strReplaceChar (strReplaceChar (if strIsempty pass then bytes "?" else pass) 32 95) 10 63

/-- The ways that the check of a login can go. -/
inductive Judged (cfg : Tunables) (host : Host W) (pass : Bytes) (s : LoginSession W) :
    List Event × LoginSession W × Except Halt LoginResult → Prop
  | refused : Judged cfg host pass s ([], s, .ok .fail)
  | anonymous (hformed : WellFormed s.userStr pass) (hname : IsAnonymous cfg s.userStr)
      (hemails : EmailsAdmit s pass) :
      Judged cfg host pass s
        ([], { s with
          anonPassStr := shownPass pass
          userStr := cfg.ftpUsername.getD []
          bannedEmailStr := []
          emailPasswordsStr := [] }, .ok .anon)
  | unexpected (hlocal : cfg.localEnable = false) :
      Judged cfg host pass s ([], s, .error (.die "unexpected local login in handle_login"))
  | checked (hformed : WellFormed s.userStr pass) (hname : ¬ IsAnonymous cfg s.userStr)
      (hlocal : cfg.localEnable = true) (answer : Bool) (name : Bytes) (world : W)
      (hanswer : host.checkAuth s.userStr pass s.remoteIpStr s.world = ((answer, name), world)) :
      Judged cfg host pass s
        ([.checkAuth s.userStr pass s.remoteIpStr answer name],
          { s with userStr := name, world := world }, .ok (if answer then .real else .fail))

variable {cfg : Tunables} {host : Host W} {pass : Bytes} {s : LoginSession W}

theorem wellFormed_of_checks
    (hlength : ¬ (s.userStr.length = 0 ∨ s.userStr.length > vsftpUsernameMax))
    (hfirst : ¬ (!firstCharOk (s.userStr.headD 0)) = true)
    (hchars : ¬ (strContainsSpace s.userStr || strContainsUnprintable s.userStr) = true)
    (hpass : ¬ pass.length > vsftpPasswordMax) : WellFormed s.userStr pass where
  notEmpty := by
    intro hempty
    exact hlength (.inl (by rw [hempty]; rfl))
  userShort := by omega
  first := by simpa using hfirst
  noSpace := by
    intro c hc
    simp only [strContainsSpace, strContainsUnprintable, Bool.or_eq_true, not_or, List.any_eq_true,
      not_exists, not_and] at hchars
    exact Bool.eq_false_iff.mpr (hchars.1 c hc)
  printable := by
    intro c hc
    simp only [strContainsSpace, strContainsUnprintable, Bool.or_eq_true, not_or, List.any_eq_true,
      not_exists, not_and] at hchars
    simpa using hchars.2 c hc
  passShort := by omega

theorem handleAnonymousLogin_judged (hformed : WellFormed s.userStr pass)
    (hname : IsAnonymous cfg s.userStr) :
    Judged cfg host pass s (handleAnonymousLogin cfg pass s) := by
  by_cases hbanned : (!strIsempty s.bannedEmailStr && strContainsLine s.bannedEmailStr pass) = true
  · have hrun : handleAnonymousLogin cfg pass s = ([], s, .ok .fail) := by
      show (if _ then _ else _ : M W LoginResult) s = _
      rw [if_pos hbanned]
      rfl
    rw [hrun]
    exact .refused
  by_cases hlisted : (!strIsempty s.emailPasswordsStr &&
      (!strContainsLine s.emailPasswordsStr pass || strIsempty pass)) = true
  · have hrun : handleAnonymousLogin cfg pass s = ([], s, .ok .fail) := by
      show (if _ then _ else _ : M W LoginResult) s = _
      rw [if_neg hbanned, if_pos hlisted]
      rfl
    rw [hrun]
    exact .refused
  have hemails : EmailsAdmit s pass := by
    constructor
    · intro hne
      simpa [strIsempty, hne] using hbanned
    · intro hne
      simpa [strIsempty, hne] using hlisted
  have hrun : handleAnonymousLogin cfg pass s =
      ([], { s with
        anonPassStr := shownPass pass
        userStr := cfg.ftpUsername.getD []
        bannedEmailStr := []
        emailPasswordsStr := [] }, .ok .anon) := by
    show (if _ then _ else _ : M W LoginResult) s = _
    rw [if_neg hbanned, if_neg hlisted]
    rfl
  rw [hrun]
  exact .anonymous hformed hname hemails

theorem handleLocalLogin_judged (hformed : WellFormed s.userStr pass)
    (hname : ¬ IsAnonymous cfg s.userStr) (hlocal : cfg.localEnable = true) :
    Judged cfg host pass s (handleLocalLogin host pass s) := by
  cases hanswer : host.checkAuth s.userStr pass s.remoteIpStr s.world with
  | mk found world =>
      obtain ⟨answer, name⟩ := found
      have hjudged := Judged.checked hformed hname hlocal answer name world hanswer
      have hrun : handleLocalLogin host pass s =
          ([.checkAuth s.userStr pass s.remoteIpStr answer name],
            { s with userStr := name, world := world },
            .ok (if answer then .real else .fail)) := by
        unfold handleLocalLogin
        show (Prog.bind _ _) s = _
        unfold Prog.bind vsfSysdepCheckAuth Prog.emit
        dsimp only
        rw [hanswer]
        cases answer <;> rfl
      rw [hrun]
      exact hjudged

theorem handleLogin_judged (cfg : Tunables) (host : Host W) (pass : Bytes) (s : LoginSession W) :
    Judged cfg host pass s (handleLogin cfg host pass s) := by
  show Judged cfg host pass s ((if _ then _ else _ : M W LoginResult) s)
  by_cases hlength : s.userStr.length = 0 ∨ s.userStr.length > vsftpUsernameMax
  · rw [if_pos hlength]
    exact .refused
  by_cases hfirst : (!firstCharOk (s.userStr.headD 0)) = true
  · rw [if_neg hlength, if_pos hfirst]
    exact .refused
  by_cases hchars : (strContainsSpace s.userStr || strContainsUnprintable s.userStr) = true
  · rw [if_neg hlength, if_neg hfirst, if_pos hchars]
    exact .refused
  by_cases hpass : pass.length > vsftpPasswordMax
  · rw [if_neg hlength, if_neg hfirst, if_neg hchars, if_pos hpass]
    exact .refused
  have hformed := wellFormed_of_checks hlength hfirst hchars hpass
  rw [if_neg hlength, if_neg hfirst, if_neg hchars, if_neg hpass]
  by_cases hname : (cfg.anonymousEnable && isAnonName s.userStr) = true
  · rw [if_pos hname]
    exact handleAnonymousLogin_judged hformed (Bool.and_eq_true_iff.mp hname)
  have hnot : ¬ IsAnonymous cfg s.userStr := fun h => hname (Bool.and_eq_true_iff.mpr h)
  rw [if_neg hname]
  cases hlocal : cfg.localEnable with
  | false => exact .unexpected hlocal
  | true => exact handleLocalLogin_judged hformed hnot hlocal

end Vsftpd.Login
