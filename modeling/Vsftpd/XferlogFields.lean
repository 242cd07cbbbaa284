import Vsftpd.Logging
import Vsftpd.Decimal
import Vsftpd.Lib.Fields
import Vsftpd.Session.PreLogin

/-!
# The fields of a transfer record

`handle_login`, and what its checks are for: no name and no password that came through it
moves a field of the transfer log.
-/

namespace Vsftpd.Logging

open Vsftpd.Lib Vsftpd.Lib.Fields
open Vsftpd.Session (Halt strContainsLine isAnonName)

/-! ## `handle_login` -/

structure LoginTunables where
  anonymousEnable : Bool := true
  localEnable : Bool := false
  ftpUsername : Option Bytes := some (bytes "ftp")

/-- The settings that are read after the configuration of the user. -/
structure UserTunables where
  guestEnable : Bool := false
  virtualUseLocalPrivs : Bool := false

def vsftpUsernameMax : Nat := 128

def vsftpPasswordMax : Nat := 128

def vsfSysutilIsalnum (c : UInt8) : Bool :=
  vsfSysutilIsdigit c ∨ 65 ≤ c ∧ c ≤ 90 ∨ 97 ≤ c ∧ c ≤ 122

def strContainsSpace (s : Bytes) : Bool := s.any isspace

def strContainsUnprintable (s : Bytes) : Bool := s.any fun c => !vsfSysutilIsprint c

inductive LoginResult where
  | fail
  | anon
  | real
  deriving DecidableEq, Repr

/-- A login: the settings, `vsf_sysdep_check_auth`, the session and the password. -/
structure Login where
  cfg : LoginTunables := {}
  userCfg : UserTunables := {}
  checkAuth : Bytes → Bytes → Bytes → Bool
  before : LogSession
  pass : Bytes

namespace Login

variable (l : Login)

/-- The password as it is kept for the log. -/
def anonPass : Bytes :=
  strReplaceChar (strReplaceChar (if strIsempty l.pass then [63] else l.pass) 32 95) 10 63

def handleAnonymousLogin : LoginResult × LogSession :=
  let sess := l.before
  if ¬ strIsempty sess.bannedEmailStr ∧ strContainsLine sess.bannedEmailStr l.pass then
    (.fail, sess)
  else if ¬ strIsempty sess.emailPasswordsStr ∧
      (¬ strContainsLine sess.emailPasswordsStr l.pass ∨ strIsempty l.pass) then
    (.fail, sess)
  else
    (.anon,
      { sess with
        anonPassStr := l.anonPass
        userStr := l.cfg.ftpUsername.getD []
        bannedEmailStr := []
        emailPasswordsStr := [] })

def handleLocalLogin : LoginResult × LogSession :=
  let sess := l.before
  if l.checkAuth sess.userStr l.pass sess.remoteIpStr then (.real, sess) else (.fail, sess)

def dodgyStart : Option UInt8 → Bool
  | none => true
  | some c => !vsfSysutilIsalnum c && c ≠ 95 && c ≠ 46

def handleLogin : Except Halt (LoginResult × LogSession) :=
  let user := l.before.userStr
  if user.length = 0 ∨ user.length > vsftpUsernameMax then .ok (.fail, l.before)
  else if dodgyStart user.head? then .ok (.fail, l.before)
  else if strContainsSpace user ∨ strContainsUnprintable user then .ok (.fail, l.before)
  else if l.pass.length > vsftpPasswordMax then .ok (.fail, l.before)
  else if l.cfg.anonymousEnable ∧ isAnonName user then .ok l.handleAnonymousLogin
  else if ¬ l.cfg.localEnable then .error (.die "unexpected local login in handle_login")
  else .ok l.handleLocalLogin

/-! ## Whose session it is -/

def commonDoLogin (sess : LogSession) (anon : Bool) : LogSession :=
  if l.userCfg.guestEnable ∧ ¬ anon then
    { sess with
      isGuest := true
      isAnonymous := if l.userCfg.virtualUseLocalPrivs then anon else true }
  else { sess with isAnonymous := anon }

/-- `process_login_req`, with the session that it begins. -/
def processLoginReq : Except Halt (Option LogSession) :=
  match l.handleLogin with
  | .error h => .error h
  | .ok (.fail, _) => .ok none
  | .ok (.anon, sess) =>
    .ok (some (l.commonDoLogin { sess with userStr := l.cfg.ftpUsername.getD [] } true))
  | .ok (.real, sess) => .ok (some (l.commonDoLogin sess false))

def vsfOneProcessLogin : Except Halt (Option LogSession) :=
  match l.handleLogin with
  | .error h => .error h
  | .ok (.fail, _) => .ok none
  | .ok (.anon, sess) => .ok (some { sess with isAnonymous := true })
  | .ok (.real, _) => .error (.bug "bad state in vsf_one_process_login")

end Login

/-- What the login settles for the rest of the session. -/
def identity (sess : LogSession) : Bool × Bool × Bytes × Bytes :=
  (sess.isAnonymous, sess.isGuest, sess.userStr, sess.anonPassStr)

/-- The session belongs to somebody that `handle_login` let in. -/
def LoggedIn (sess : LogSession) : Prop :=
  ∃ (l : Login) (after : LogSession), l.before.isGuest = false ∧
    (l.processLoginReq = .ok (some after) ∨ l.vsfOneProcessLogin = .ok (some after)) ∧
    identity sess = identity after

/-- The name under which transfers are logged. -/
def xferlogUser (sess : LogSession) : Bytes :=
  if sess.isAnonymous ∧ ¬ sess.isGuest then sess.anonPassStr else sess.userStr

section
variable {l : Login} {sess after : LogSession} {s text : Bytes} {c : UInt8}

theorem not_mem_strReplaceChar {old new : UInt8} (h : new ≠ old) (s : Bytes) :
    old ∉ strReplaceChar s old new := by
  intro hmem
  obtain ⟨c, _, hc⟩ := List.mem_map.mp hmem
  split_ifs at hc with heq
  · exact h hc
  · exact heq hc

theorem space_not_mem_anonPass : 32 ∉ l.anonPass := by
  intro hmem
  obtain ⟨c, hc, heq⟩ := List.mem_map.mp hmem
  split_ifs at heq with hnewline
  · exact absurd heq (by decide)
  · rw [heq] at hc
    exact not_mem_strReplaceChar (by decide) _ hc

theorem space_not_mem_of_containsSpace (h : ¬ strContainsSpace s = true) : 32 ∉ s :=
  fun hmem => h (List.any_eq_true.mpr ⟨32, hmem, rfl⟩)

/-- Whom `handle_login` lets in. -/
theorem handleLogin_cases {result : LoginResult} (h : l.handleLogin = .ok (result, after)) :
    result = .fail ∨ result = .anon ∧ after.anonPassStr = l.anonPass ∧
        after.isGuest = l.before.isGuest ∨
      result = .real ∧ after = l.before ∧ 32 ∉ l.before.userStr := by
  unfold Login.handleLogin at h
  dsimp only at h
  split_ifs at h with hlen hstart hchars hpass hanon hlocal
  · exact .inl (congrArg Prod.fst (Except.ok.inj h)).symm
  · exact .inl (congrArg Prod.fst (Except.ok.inj h)).symm
  · exact .inl (congrArg Prod.fst (Except.ok.inj h)).symm
  · exact .inl (congrArg Prod.fst (Except.ok.inj h)).symm
  · unfold Login.handleAnonymousLogin at h
    dsimp only at h
    split_ifs at h
    · exact .inl (congrArg Prod.fst (Except.ok.inj h)).symm
    · exact .inl (congrArg Prod.fst (Except.ok.inj h)).symm
    · cases h
      exact .inr (.inl ⟨rfl, rfl, rfl⟩)
  · unfold Login.handleLocalLogin at h
    dsimp only at h
    split_ifs at h
    · cases h
      exact .inr (.inr ⟨rfl, rfl, space_not_mem_of_containsSpace fun hs => hchars (.inl hs)⟩)
    · exact .inl (congrArg Prod.fst (Except.ok.inj h)).symm

theorem xferlogUser_anon (h : sess.isGuest = false) (user : Bytes) :
    xferlogUser (l.commonDoLogin { sess with userStr := user } true) = sess.anonPassStr := by
  simp [Login.commonDoLogin, xferlogUser, h]

/-- A guest is logged under the name of the login. -/
theorem xferlogUser_real (sess : LogSession) :
    xferlogUser (l.commonDoLogin sess false) = sess.userStr := by
  unfold Login.commonDoLogin
  by_cases hremap : l.userCfg.guestEnable = true
  · rw [if_pos ⟨hremap, Bool.false_ne_true⟩]
    simp [xferlogUser]
  · rw [if_neg fun h => hremap h.1]
    simp [xferlogUser]

theorem space_not_mem_processLoginReq (hguest : l.before.isGuest = false)
    (h : l.processLoginReq = .ok (some after)) : 32 ∉ xferlogUser after := by
  unfold Login.processLoginReq at h
  cases hresult : l.handleLogin with
  | error e =>
      rw [hresult] at h
      exact absurd h (by simp)
  | ok pair =>
      obtain ⟨result, sess⟩ := pair
      rw [hresult] at h
      rcases handleLogin_cases hresult with rfl | ⟨rfl, hpass, hkept⟩ | ⟨rfl, rfl, hname⟩
      · exact absurd h (by simp)
      · obtain rfl := Option.some.inj (Except.ok.inj h)
        rw [xferlogUser_anon (hkept.trans hguest), hpass]
        exact space_not_mem_anonPass
      · obtain rfl := Option.some.inj (Except.ok.inj h)
        rw [xferlogUser_real]
        exact hname

theorem space_not_mem_oneProcessLogin (hguest : l.before.isGuest = false)
    (h : l.vsfOneProcessLogin = .ok (some after)) : 32 ∉ xferlogUser after := by
  unfold Login.vsfOneProcessLogin at h
  cases hresult : l.handleLogin with
  | error e =>
      rw [hresult] at h
      exact absurd h (by simp)
  | ok pair =>
      obtain ⟨result, sess⟩ := pair
      rw [hresult] at h
      rcases handleLogin_cases hresult with rfl | ⟨rfl, hpass, hkept⟩ | ⟨rfl, rfl, hname⟩
      · exact absurd h (by simp)
      · obtain rfl := Option.some.inj (Except.ok.inj h)
        unfold xferlogUser
        dsimp only
        rw [hkept, hguest, if_pos (by simp), hpass]
        exact space_not_mem_anonPass
      · exact absurd h (by simp)

theorem LoggedIn.of_identity {sess' : LogSession} (h : LoggedIn sess)
    (heq : identity sess' = identity sess) : LoggedIn sess' := by
  obtain ⟨l, after, hguest, hlogin, hidentity⟩ := h
  exact ⟨l, after, hguest, hlogin, heq.trans hidentity⟩

theorem LoggedIn.space_not_mem (h : LoggedIn sess) : 32 ∉ xferlogUser sess := by
  obtain ⟨l, after, hguest, hlogin, hidentity⟩ := h
  have huser : xferlogUser sess = xferlogUser after := by
    unfold identity at hidentity
    simp only [Prod.mk.injEq] at hidentity
    unfold xferlogUser
    rw [hidentity.1, hidentity.2.1, hidentity.2.2.1, hidentity.2.2.2]
  rw [huser]
  rcases hlogin with hlogin | hlogin
  · exact space_not_mem_processLoginReq hguest hlogin
  · exact space_not_mem_oneProcessLogin hguest hlogin

end

/-! ## The fields -/

/-- The fields of a transfer record: those of the date and of the address of the client,
and twelve more. -/
def xferlogFields (sess : LogSession) (now : Readings) (succeeded : Bool) : List Bytes :=
  let what := sess.logType
  let deltaSec := now.timeSec - sess.logStartSec
  let deltaSec := if deltaSec ≤ 0 then 1 else deltaSec
  now.currentDate.splitOn 32 ++ ([vsfSysutilUlongToStr deltaSec.toNat] ++
    (sess.remoteIpStr.splitOn 32 ++
      [vsfSysutilFilesizeTToStr sess.transferSize,
        strReplaceChar sess.logStr 32 95,
        if sess.isAscii then bytes "a" else bytes "b",
        bytes "_",
        if what = some .upload then bytes "i" else bytes "o",
        if sess.isAnonymous ∧ ¬ sess.isGuest then bytes "a"
          else if sess.isGuest then bytes "g" else bytes "r",
        xferlogUser sess,
        bytes "ftp",
        bytes "0",
        bytes "*",
        if succeeded then [99] else [105]]))

section
variable {sess : LogSession} {now : Readings} {succeeded : Bool}

theorem wuftpdFormat_eq (sess : LogSession) (now : Readings) (succeeded : Bool) :
    vsfLogDoLogWuftpdFormat sess now succeeded =
      [32].intercalate (xferlogFields sess now succeeded) := by
  have hdate : now.currentDate.splitOn 32 ≠ [] := List.splitOn_ne_nil 32 _
  have hip : sess.remoteIpStr.splitOn 32 ≠ [] := List.splitOn_ne_nil 32 _
  unfold xferlogFields
  dsimp only
  rw [intercalate_append hdate (by simp), intercalate_append (by simp) (by simp),
    intercalate_append hip (by simp), List.intercalate_splitOn, List.intercalate_splitOn,
    List.intercalate_singleton]
  have hmode : (if sess.isAscii then bytes "a " else bytes "b ") =
      (if sess.isAscii then bytes "a" else bytes "b") ++ [32] := by
    split_ifs <;> rfl
  have hway : (if sess.logType = some .upload then bytes "i " else bytes "o ") =
      (if sess.logType = some .upload then bytes "i" else bytes "o") ++ [32] := by
    split_ifs <;> rfl
  have hwho : (if sess.isAnonymous ∧ ¬ sess.isGuest then bytes "a " ++ sess.anonPassStr
        else (if sess.isGuest then bytes "g " else bytes "r ") ++ sess.userStr) =
      (if sess.isAnonymous ∧ ¬ sess.isGuest then bytes "a"
        else if sess.isGuest then bytes "g" else bytes "r") ++ [32] ++ xferlogUser sess := by
    unfold xferlogUser
    split_ifs <;> rfl
  have hflag : bytes "_ " = bytes "_" ++ [32] := rfl
  have hservice : bytes "ftp 0 * " =
      bytes "ftp" ++ [32] ++ (bytes "0" ++ [32] ++ (bytes "*" ++ [32])) := rfl
  unfold vsfLogDoLogWuftpdFormat
  dsimp only
  rw [hmode, hway, hwho, hflag, hservice]
  simp only [List.intercalate_cons_cons, List.intercalate_singleton, List.append_assoc,
    List.cons_append, List.nil_append]

theorem space_not_mem_ulongToStr (n : Nat) : 32 ∉ vsfSysutilUlongToStr n :=
  fun hmem => absurd (isDigit_of_mem_ulongToStr hmem) (by decide)

theorem space_not_mem_filesizeTToStr (n : Int) : 32 ∉ vsfSysutilFilesizeTToStr n := by
  have hdigits : 32 ∉ digitsText 10 n.natAbs := space_not_mem_ulongToStr n.natAbs
  unfold vsfSysutilFilesizeTToStr
  split_ifs
  · intro hmem
    rcases List.mem_cons.mp hmem with hminus | hmem
    · exact absurd hminus (by decide)
    · exact hdigits hmem
  · exact hdigits

theorem space_not_mem_field (huser : 32 ∉ xferlogUser sess) :
    ∀ field ∈ xferlogFields sess now succeeded, 32 ∉ field := by
  intro field hfield
  unfold xferlogFields at hfield
  dsimp only at hfield
  simp only [List.mem_append, List.mem_cons, List.not_mem_nil, or_false] at hfield
  rcases hfield with h | rfl | h | rfl | rfl | rfl | rfl | rfl | rfl | rfl | rfl | rfl | rfl | rfl
  · exact not_mem_of_mem_splitOn h
  · exact space_not_mem_ulongToStr _
  · exact not_mem_of_mem_splitOn h
  · exact space_not_mem_filesizeTToStr _
  · exact not_mem_strReplaceChar (by decide) _
  · split_ifs <;> decide +kernel
  · decide +kernel
  · split_ifs <;> decide +kernel
  · split_ifs <;> decide +kernel
  · exact huser
  · decide +kernel
  · decide +kernel
  · decide +kernel
  · split_ifs <;> decide +kernel

theorem length_xferlogFields (sess : LogSession) (now : Readings) (succeeded : Bool) :
    (xferlogFields sess now succeeded).length =
      now.currentDate.count 32 + sess.remoteIpStr.count 32 + 14 := by
  unfold xferlogFields
  simp only [List.length_append, length_splitOn, List.length_cons, List.length_nil]
  omega

/-! ## Made printable -/

/-- The fields as they are written. -/
def writtenFields (sess : LogSession) (now : Readings) (succeeded : Bool) : List Bytes :=
  (xferlogFields sess now succeeded).map (strReplaceUnprintable · 63)

theorem replaceUnprintable_wuftpdFormat (sess : LogSession) (now : Readings) (succeeded : Bool) :
    strReplaceUnprintable (vsfLogDoLogWuftpdFormat sess now succeeded) 63 =
      [32].intercalate (writtenFields sess now succeeded) := by
  rw [wuftpdFormat_eq]
  exact map_intercalate _ _

theorem space_not_mem_writtenField (huser : 32 ∉ xferlogUser sess) :
    ∀ field ∈ writtenFields sess now succeeded, 32 ∉ field := by
  intro field hfield hmem
  obtain ⟨raw, hraw, rfl⟩ := List.mem_map.mp hfield
  obtain ⟨c, hc, heq⟩ := List.mem_map.mp hmem
  split_ifs at heq with hprint
  · rw [heq] at hc
    exact space_not_mem_field huser raw hraw hc
  · exact absurd heq (by decide)

theorem writtenFields_ne_nil (sess : LogSession) (now : Readings) (succeeded : Bool) :
    writtenFields sess now succeeded ≠ [] := by
  apply List.ne_nil_of_length_pos
  unfold writtenFields
  rw [List.length_map, length_xferlogFields]
  omega

/-- What is written for a transfer. -/
def xferlogText (sess : LogSession) (now : Readings) (succeeded : Bool) : Bytes :=
  strReplaceUnprintable (vsfLogDoLogWuftpdFormat sess now succeeded) 63 ++ [10]

theorem splitOn_xferlogText (huser : 32 ∉ xferlogUser sess) :
    (xferlogText sess now succeeded).dropLast.splitOn 32 = writtenFields sess now succeeded := by
  unfold xferlogText
  rw [List.dropLast_concat, replaceUnprintable_wuftpdFormat]
  exact List.splitOn_intercalate 32 (space_not_mem_writtenField huser)
    (writtenFields_ne_nil sess now succeeded)

theorem count_xferlogText (huser : 32 ∉ xferlogUser sess) :
    (xferlogText sess now succeeded).count 32 =
      now.currentDate.count 32 + sess.remoteIpStr.count 32 + 13 := by
  have hcount := count_intercalate (space_not_mem_writtenField huser)
    (writtenFields_ne_nil sess now succeeded)
  have hlength : (writtenFields sess now succeeded).length =
      now.currentDate.count 32 + sess.remoteIpStr.count 32 + 14 := by
    unfold writtenFields
    rw [List.length_map, length_xferlogFields]
  have hnewline : [(10 : UInt8)].count 32 = 0 := rfl
  unfold xferlogText
  rw [List.count_append, hnewline, replaceUnprintable_wuftpdFormat]
  omega

end

end Vsftpd.Logging
