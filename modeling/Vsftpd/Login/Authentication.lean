import Vsftpd.Login.Service
import Mathlib.Algebra.GroupWithZero.Nat

/-!
# Nobody is let in without a check

What holds of every run of the login service, whatever the child sends: which names the
password database is asked about, what a wrong guess costs, and for whom a login is granted.
-/

namespace Vsftpd.Login

open Vsftpd.Lib Vsftpd.Lib.Wire
open Vsftpd.Session (privSockResultBad)
open Vsftpd.TwoProcess (LoginResult)

variable {W : Type} {cfg : Tunables} {host : Host W} {r : Request} {pass : Bytes}
  {s s₁ : LoginSession W} {es : List Event}

/-! ## Events -/

/-- The database is only asked about names and passwords that are well formed, of local users. -/
def Consults (cfg : Tunables) (remoteIp : Bytes) : Event → Prop
  | .checkAuth user pass remoteHost _ _ =>
    WellFormed user pass ∧ ¬ IsAnonymous cfg user ∧ cfg.localEnable = true ∧ remoteHost = remoteIp
  | _ => True

/-- The database said no. -/
def Event.denied : Event → Bool
  | .checkAuth _ _ _ answer _ => !answer
  | _ => false

def Event.seconds : Event → Nat
  | .sleep n => n
  | _ => 0

/-- How long the parent has slept. -/
def slept (es : List Event) : Nat := (es.map Event.seconds).sum

theorem slept_append (es fs : List Event) : slept (es ++ fs) = slept es + slept fs := by
  unfold slept
  rw [List.map_append, List.sum_append]

/-- The delay of a login that fails was slept for every wrong guess. -/
def Paid (cfg : Tunables) (es : List Event) : Prop :=
  cfg.delayFailedLogin * es.countP Event.denied ≤ slept es

theorem Paid.append {fs : List Event} (h : Paid cfg es) (h' : Paid cfg fs) :
    Paid cfg (es ++ fs) := by
  unfold Paid at h h' ⊢
  rw [List.countP_append, slept_append, Nat.mul_add]
  exact Nat.add_le_add h h'

theorem paid_of_none (h : ∀ e ∈ es, e.denied = false) : Paid cfg es := by
  have hcount : es.countP Event.denied = 0 := by
    rw [List.countP_eq_zero]
    intro e he
    rw [h e he]
    exact Bool.false_ne_true
  unfold Paid
  rw [hcount]
  exact Nat.zero_le _

/-! ## One login -/

/-- The sleep after a login. -/
def pause (delay : Nat) : List Event := if delay > 0 then [.sleep delay] else []

theorem slept_pause (delay : Nat) : slept (pause delay) = delay := by
  unfold pause slept
  split_ifs with h
  · exact Nat.add_zero delay
  · exact (Nat.eq_zero_of_not_pos h).symm

def delayOf (cfg : Tunables) (result : LoginResult) : Nat :=
  if result = .fail then cfg.delayFailedLogin else cfg.delaySuccessfulLogin

theorem whenever_sleep (delay : Nat) :
    Prog.whenever (delay > 0) (vsfSysutilSleep delay) s = (pause delay, s, .ok ()) := by
  unfold Prog.whenever pause
  split_ifs
  · rfl
  · rfl

/-- The events of the log entry of a login. -/
def loginEntry (cfg : Tunables) (result : LoginResult) (s : LoginSession W) : List Event :=
  .log (result ≠ .fail) s.userStr s.anonPassStr :: pause (delayOf cfg result)

theorem logLogin_eq (result : LoginResult) (hlog : s.logPending = false) :
    logLogin cfg result s = (loginEntry cfg result s, s, .ok ()) := by
  have hstart : vsfLogStartEntry s = ([], { s with logPending := true }, .ok ()) := by
    show (if s.logPending = true then _ else _ : M W Unit) s = _
    rw [if_neg (by rw [hlog]; decide)]
    rfl
  have hback : { s with logPending := false } = s := by
    rw [← hlog]
  have hlogged (succeeded : Bool) : (vsfLogDoLog succeeded : M W Unit)
      { s with logPending := true } = ([.log succeeded s.userStr s.anonPassStr], s, .ok ()) := by
    show ([Event.log succeeded s.userStr s.anonPassStr], { s with logPending := false },
      (.ok () : Except Halt Unit)) = _
    rw [hback]
  have hentry (succeeded : Bool) (delay : Nat) : (do
      vsfLogDoLog succeeded
      Prog.whenever (delay > 0) (vsfSysutilSleep delay) : M W Unit) { s with logPending := true } =
        (.log succeeded s.userStr s.anonPassStr :: pause delay, s, .ok ()) := by
    rw [bind_run_ok (hlogged succeeded), whenever_sleep]
    rfl
  unfold logLogin loginEntry delayOf
  rw [bind_run_ok hstart, List.nil_append]
  by_cases hfail : result = .fail
  · rw [if_pos hfail, if_pos hfail, hentry false]
    rw [hfail]
    rfl
  · rw [if_neg hfail, if_neg hfail, hentry true, decide_eq_true hfail]

/-- What a check that comes to its end adds to the trace of its own. -/
theorem vsfPrivopDoLogin_ok {result : LoginResult}
    (h : handleLogin cfg host pass s = (es, s₁, .ok result)) (hlog : s₁.logPending = false) :
    vsfPrivopDoLogin cfg host pass s = (es ++ loginEntry cfg result s₁, s₁, .ok result) := by
  unfold vsfPrivopDoLogin
  rw [bind_run_ok h, bind_run_ok (logLogin_eq result hlog)]
  exact Prod.ext (congrArg (es ++ ·) (List.append_nil _)) rfl

theorem mem_loginEntry {result : LoginResult} {e : Event} (h : e ∈ loginEntry cfg result s) :
    e.denied = false ∧ ∀ remoteIp, Consults cfg remoteIp e := by
  unfold loginEntry pause at h
  rcases List.mem_cons.mp h with rfl | h
  · exact ⟨rfl, fun _ => trivial⟩
  · split_ifs at h
    · rw [List.mem_singleton.mp h]
      exact ⟨rfl, fun _ => trivial⟩
    · exact absurd h List.not_mem_nil

theorem slept_loginEntry (result : LoginResult) :
    slept (loginEntry cfg result s) = delayOf cfg result := by
  have hlog : slept [Event.log (result ≠ .fail) s.userStr s.anonPassStr] = 0 := rfl
  unfold loginEntry
  rw [← List.singleton_append, slept_append, hlog, slept_pause, Nat.zero_add]

/-! ## One request -/

/-- What the answers to requests that are refused leave as it is. -/
structure Steady (s s' : LoginSession W) : Prop where
  remoteIp : s'.remoteIpStr = s.remoteIpStr
  bannedEmail : s'.bannedEmailStr = s.bannedEmailStr
  emailPasswords : s'.emailPasswordsStr = s.emailPasswordsStr
  logPending : s'.logPending = false

/-- A login is granted for the name and the password of the request: they are well formed, and
they are those of the anonymous user, or the database has said yes to them. -/
structure Authenticated (cfg : Tunables) (s : LoginSession W) (r : Request) (es : List Event)
    (g : Grant) : Prop where
  formed : WellFormed r.userStr r.passStr
  control : g.controlUseSsl = if cfg.sslEnable then r.controlUseSsl else 0
  data : g.dataUseSsl = if cfg.sslEnable then r.dataUseSsl else 0
  who : (IsAnonymous cfg r.userStr ∧ EmailsAdmit s r.passStr ∧ g.result = .anon ∧
      g.userStr = cfg.ftpUsername.getD [] ∧ g.anonPassStr = shownPass r.passStr) ∨
    (¬ IsAnonymous cfg r.userStr ∧ cfg.localEnable = true ∧ g.result = .real ∧
      .checkAuth r.userStr r.passStr s.remoteIpStr true g.userStr ∈ es)

/-- What is known of the answer to a request. -/
structure Answered (cfg : Tunables) (s : LoginSession W) (r : Request)
    (out : List Event × LoginSession W × Except Halt Unit) : Prop where
  consults : ∀ e ∈ out.1, Consults cfg s.remoteIpStr e
  paid : Paid cfg out.1
  steady : out.2.2 = .ok () → Steady s out.2.1
  noBug : ∀ text, out.2.2 ≠ .error (.bug text)
  granted : ∀ g, out.2.2 = .error (.loggedIn g) → Authenticated cfg s r out.1 g

theorem privSockSendResult_eq (res : UInt8) :
    ∃ w result, privSockSendResult host res s = ([.sendResult res], { s with world := w }, result) ∧
      (result = .ok () ∨ result = .error (.die "priv_sock_send_result")) := by
  cases hwrite : host.write res s.world with
  | mk ok world =>
      refine ⟨world, if ok then .ok () else .error (.die "priv_sock_send_result"), ?_, ?_⟩
      · unfold privSockSendResult
        show (Prog.bind _ _) s = _
        unfold Prog.bind Prog.emit
        dsimp only
        rw [hwrite]
        cases ok <;> rfl
      · cases ok
        · exact .inr rfl
        · exact .inl rfl

/-- A request that is refused, after the database was asked at most once. -/
theorem answered_refused (hcheck : handleLogin cfg host r.passStr (given cfg r s) =
      (es, s₁, .ok .fail)) (hsteady : Steady s s₁) (hes : es.countP Event.denied ≤ 1)
    (hconsults : ∀ e ∈ es, Consults cfg s.remoteIpStr e) :
    Answered cfg s r (answerLogin cfg host r s) := by
  have hsent : ∃ w result, privSockSendResult host privSockResultBad s₁ =
      ([.sendResult privSockResultBad], { s₁ with world := w }, result) ∧
      (result = .ok () ∨ result = .error (.die "priv_sock_send_result")) :=
    privSockSendResult_eq privSockResultBad
  obtain ⟨w, result, hsend, hresult⟩ := hsent
  have hrun : answerLogin cfg host r s =
      (es ++ loginEntry cfg .fail s₁ ++ [.sendResult privSockResultBad], { s₁ with world := w },
        result) := by
    show (vsfPrivopDoLogin cfg host r.passStr >>= _) (given cfg r s) = _
    rw [bind_run_ok (vsfPrivopDoLogin_ok hcheck hsteady.logPending), if_pos rfl, hsend]
  rw [hrun]
  have hfail : ∀ h : Halt, result = .error h → h = .die "priv_sock_send_result" := by
    intro h hh
    rcases hresult with hok | hdie
    · rw [hok] at hh
      cases hh
    · rw [hdie] at hh
      cases hh
      rfl
  refine ⟨fun e he => ?_, ?_, fun _ => ⟨?_, ?_, ?_, ?_⟩, fun text htext => ?_, fun g hg => ?_⟩
  · rcases List.mem_append.mp he with he | he
    · rcases List.mem_append.mp he with he | he
      · exact hconsults e he
      · exact (mem_loginEntry he).2 _
    · rw [List.mem_singleton.mp he]
      trivial
  · have hentry : (loginEntry cfg .fail s₁).countP Event.denied = 0 := by
      rw [List.countP_eq_zero]
      intro e he
      rw [(mem_loginEntry he).1]
      exact Bool.false_ne_true
    have hcount : (es ++ loginEntry cfg .fail s₁ ++ [Event.sendResult privSockResultBad]).countP
        Event.denied = es.countP Event.denied := by
      rw [List.countP_append, List.countP_append, hentry]
      rfl
    have hdelay : slept (loginEntry cfg .fail s₁) = cfg.delayFailedLogin := slept_loginEntry _
    unfold Paid
    dsimp only
    rw [hcount, slept_append, slept_append, hdelay]
    calc
      cfg.delayFailedLogin * es.countP Event.denied
          ≤ cfg.delayFailedLogin * 1 := Nat.mul_le_mul_left _ hes
      _ ≤ slept es + cfg.delayFailedLogin +
          slept [Event.sendResult privSockResultBad] := by omega
  · exact hsteady.remoteIp
  · exact hsteady.bannedEmail
  · exact hsteady.emailPasswords
  · exact hsteady.logPending
  · cases hfail _ htext
  · cases hfail _ hg

/-- A request that is granted, after the database was asked at most once and said yes. -/
theorem answered_granted {result : LoginResult} (hne : result ≠ .fail)
    (hcheck : handleLogin cfg host r.passStr (given cfg r s) = (es, s₁, .ok result))
    (hlog : s₁.logPending = false) (hes : ∀ e ∈ es, e.denied = false)
    (hconsults : ∀ e ∈ es, Consults cfg s.remoteIpStr e)
    (hwho : Authenticated cfg s r es
      ⟨result, s₁.userStr, s₁.anonPassStr, s₁.controlUseSsl, s₁.dataUseSsl⟩) :
    Answered cfg s r (answerLogin cfg host r s) := by
  have hrun : answerLogin cfg host r s =
      (es ++ loginEntry cfg result s₁, s₁, .error
        (.loggedIn ⟨result, s₁.userStr, s₁.anonPassStr, s₁.controlUseSsl, s₁.dataUseSsl⟩)) := by
    show (vsfPrivopDoLogin cfg host r.passStr >>= _) (given cfg r s) = _
    rw [bind_run_ok (vsfPrivopDoLogin_ok hcheck hlog), if_neg hne]
    exact Prod.ext (List.append_nil _) rfl
  rw [hrun]
  have hmem : ∀ e ∈ es ++ loginEntry cfg result s₁,
      e.denied = false ∧ Consults cfg s.remoteIpStr e := by
    intro e he
    rcases List.mem_append.mp he with he | he
    · exact ⟨hes e he, hconsults e he⟩
    · exact ⟨(mem_loginEntry he).1, (mem_loginEntry he).2 _⟩
  refine ⟨fun e he => (hmem e he).2, paid_of_none fun e he => (hmem e he).1, fun hok => ?_,
    fun text htext => ?_, fun g hg => ?_⟩
  · cases hok
  · cases htext
  · cases hg
    exact { hwho with
      who := hwho.who.imp_right fun h => ⟨h.1, h.2.1, h.2.2.1, List.mem_append_left _ h.2.2.2⟩ }

/-- One request, whatever the child sent before it. -/
theorem answerLogin_answered (cfg : Tunables) (host : Host W) (r : Request)
    (hlog : s.logPending = false) : Answered cfg s r (answerLogin cfg host r s) := by
  have hjudged := handleLogin_judged cfg host r.passStr (given cfg r s)
  have hgiven : Steady s (given cfg r s) := ⟨rfl, rfl, rfl, hlog⟩
  have hnone : ∀ e ∈ ([] : List Event), Consults cfg s.remoteIpStr e :=
    fun e he => absurd he List.not_mem_nil
  generalize hout : handleLogin cfg host r.passStr (given cfg r s) = out at hjudged
  cases hjudged with
  | refused => exact answered_refused hout hgiven (Nat.zero_le _) hnone
  | anonymous hformed hname hemails =>
      have hdenied : ∀ e ∈ ([] : List Event), e.denied = false :=
        fun e he => absurd he List.not_mem_nil
      refine answered_granted (by decide) hout hlog hdenied hnone ?_
      exact ⟨hformed, rfl, rfl, .inl ⟨hname, hemails, rfl, rfl, rfl⟩⟩
  | unexpected hlocal =>
      have hdie : vsfPrivopDoLogin cfg host r.passStr (given cfg r s) =
          ([], given cfg r s, .error (.die "unexpected local login in handle_login")) :=
        bind_run_error hout
      have hrun : answerLogin cfg host r s =
          ([], given cfg r s, .error (.die "unexpected local login in handle_login")) := by
        show (vsfPrivopDoLogin cfg host r.passStr >>= _) (given cfg r s) = _
        exact bind_run_error hdie
      rw [hrun]
      refine ⟨hnone, Nat.zero_le _, fun hok => ?_, fun text htext => ?_, fun g hg => ?_⟩
      · cases hok
      · cases htext
      · cases hg
  | checked hformed hname hlocal answer name world hanswer =>
      have hconsults : ∀ e ∈ [Event.checkAuth r.userStr r.passStr s.remoteIpStr answer name],
          Consults cfg s.remoteIpStr e := by
        intro e he
        rw [List.mem_singleton.mp he]
        exact ⟨hformed, hname, hlocal, rfl⟩
      cases answer with
      | false => exact answered_refused hout ⟨rfl, rfl, rfl, hlog⟩ (Nat.le_refl 1) hconsults
      | true =>
          refine answered_granted (by decide) hout hlog (fun e he => ?_) hconsults ?_
          · rw [List.mem_singleton.mp he]
            rfl
          · exact ⟨hformed, rfl, rfl, .inr ⟨hname, hlocal, rfl, List.mem_singleton.mpr rfl⟩⟩

/-! ## Runs -/

/-- What is known of the answers to a list of requests, the last of which may be granted. -/
theorem forEach_answered (cfg : Tunables) (host : Host W) (requests : List Request)
    (hlog : s.logPending = false) :
    let out := Prog.forEach (answerLogin cfg host) requests s
    (∀ e ∈ out.1, Consults cfg s.remoteIpStr e) ∧ Paid cfg out.1 ∧
      (out.2.2 = .ok () → Steady s out.2.1) ∧ ∀ text, out.2.2 ≠ .error (.bug text) := by
  induction requests generalizing s with
  | nil =>
      refine ⟨fun e he => absurd he List.not_mem_nil, Nat.zero_le _, fun _ => ⟨rfl, rfl, rfl, hlog⟩,
        fun text htext => ?_⟩
      cases htext
  | cons r requests ih =>
      have hone := answerLogin_answered cfg host r hlog
      cases hrun : answerLogin cfg host r s with
      | mk es end₁ =>
          obtain ⟨s₁, result⟩ := end₁
          rw [hrun] at hone
          cases result with
          | error h =>
              have hall : Prog.forEach (answerLogin cfg host) (r :: requests) s =
                  (es, s₁, .error h) := bind_run_error hrun
              rw [hall]
              exact ⟨hone.consults, hone.paid, hone.steady, hone.noBug⟩
          | ok u =>
              have hsteady := hone.steady rfl
              obtain ⟨hconsults, hpaid, hrest, hnoBug⟩ := ih hsteady.logPending
              have hall : Prog.forEach (answerLogin cfg host) (r :: requests) s =
                  (es ++ (Prog.forEach (answerLogin cfg host) requests s₁).1,
                    (Prog.forEach (answerLogin cfg host) requests s₁).2) := bind_run_ok hrun
              rw [hall]
              refine ⟨fun e he => ?_, hone.paid.append hpaid, fun hok => ?_, hnoBug⟩
              · rcases List.mem_append.mp he with he | he
                · exact hone.consults e he
                · rw [← hsteady.remoteIp]
                  exact hconsults e he
              · have hlater := hrest hok
                exact ⟨hlater.remoteIp.trans hsteady.remoteIp,
                  hlater.bannedEmail.trans hsteady.bannedEmail,
                  hlater.emailPasswords.trans hsteady.emailPasswords, hlater.logPending⟩

theorem Authenticated.of_steady {g : Grant} (h : Authenticated cfg s₁ r es g)
    (hsteady : Steady s s₁) (fs : List Event) : Authenticated cfg s r (fs ++ es) g := by
  refine { h with who := h.who.imp (fun hanon => ?_) fun hreal => ?_ }
  · obtain ⟨hname, hemails, hrest⟩ := hanon
    unfold EmailsAdmit at hemails
    rw [hsteady.bannedEmail, hsteady.emailPasswords] at hemails
    exact ⟨hname, hemails, hrest⟩
  · obtain ⟨hname, hlocal, hresult, hmem⟩ := hreal
    rw [hsteady.remoteIp] at hmem
    exact ⟨hname, hlocal, hresult, List.mem_append_right _ hmem⟩

/-- The request that a login is granted to is the last one. -/
theorem granted_request {n : Nat} {l : Link UInt8} {requests : List Request} {g : Grant}
    {out : List Event × (Link UInt8 × LoginSession W) × Except Halt Unit}
    (hserves : Wire.Serves Request.encode Request.Valid Stop.halt (answerLogin cfg host) n l s
      requests out) (hlog : s.logPending = false)
    (hgrant : (Prog.forEach (answerLogin cfg host) requests s).2.2 = .error (.loggedIn g)) :
    ∃ refused r, (∀ r' ∈ refused ++ [r], r'.Valid) ∧
      l.source = (refused ++ [r]).flatMap Request.encode ++ out.2.1.1.source ∧
      Authenticated cfg s r out.1 g := by
  have hne : requests ≠ [] := by
    intro hnil
    rw [hnil] at hgrant
    cases hgrant
  have hsplit : requests.dropLast ++ [requests.getLast hne] = requests :=
    List.dropLast_append_getLast hne
  cases hearlier : Prog.forEach (answerLogin cfg host) requests.dropLast s with
  | mk es end₁ =>
      obtain ⟨s₁, result⟩ := end₁
      have hok : result = .ok () := by
        have hlast := hserves.last
        rw [hearlier] at hlast
        exact hlast
      rw [hok] at hearlier
      have hsteady : Steady s s₁ := by
        have hfacts := (forEach_answered cfg host requests.dropLast hlog).2.2.1
        rw [hearlier] at hfacts
        exact hfacts rfl
      have hall := forEach_concat (a := requests.getLast hne) hearlier
      rw [hsplit] at hall
      have hanswered := answerLogin_answered cfg host (requests.getLast hne) hsteady.logPending
      rw [hall] at hgrant
      refine ⟨requests.dropLast, requests.getLast hne, ?_, ?_, ?_⟩
      · rw [hsplit]
        exact hserves.valid
      · rw [hsplit]
        exact hserves.source
      · rw [hserves.events, hall]
        exact (hanswered.granted g hgrant).of_steady hsteady es

/-- Whatever the child sends: the password database is only asked about names and passwords
that are well formed and not of the anonymous user, every wrong guess is paid for with the
delay, the process does not come upon a bug, and when a login is granted, it is to the last of
the requests that were sent, which is authenticated. -/
theorem loginService_authenticates (cfg : Tunables) (host : Host W) (n : Nat) (l : Link UInt8)
    (s : LoginSession W) (hlog : s.logPending = false) :
    let out := Prog.iterate (processLoginReq cfg host) n (l, s)
    (∀ e ∈ out.1, Consults cfg s.remoteIpStr e) ∧ Paid cfg out.1 ∧
      (∀ text, out.2.2 ≠ .error (.bug text)) ∧
      ∀ g, out.2.2 = .error (.loggedIn g) → ∃ refused r,
        (∀ r' ∈ refused ++ [r], r'.Valid) ∧
        l.source = (refused ++ [r]).flatMap Request.encode ++ out.2.1.1.source ∧
        Authenticated cfg s r out.1 g := by
  intro out
  have hserve : ∃ requests, Wire.Serves Request.encode Request.Valid Stop.halt
      (answerLogin cfg host) n l s requests out := serve_sound exact_getLoginReq n l s
  obtain ⟨requests, hserves⟩ := hserve
  obtain ⟨hconsults, hpaid, -, hnoBug⟩ := forEach_answered cfg host requests hlog
  have hhalt : ∀ h : Halt, out.2.2 = .error h →
      (Prog.forEach (answerLogin cfg host) requests s).2.2 = .error h ∨ ∃ e : Stop, h = e.halt := by
    intro h hh
    rcases hserves.result with ⟨hresult, -⟩ | ⟨-, e, he⟩
    · exact .inl (hresult.symm.trans hh)
    · exact .inr ⟨e, Except.error.inj (hh.symm.trans he)⟩
  refine ⟨?_, ?_, fun text htext => ?_, fun g hg => ?_⟩
  · rw [hserves.events]
    exact hconsults
  · rw [hserves.events]
    exact hpaid
  · rcases hhalt _ htext with hbug | ⟨e, he⟩
    · exact hnoBug text hbug
    · cases e <;> cases he
  · rcases hhalt _ hg with hgrant | ⟨e, he⟩
    · exact granted_request hserves hlog hgrant
    · cases e <;> cases he

/-! ### A wrong guess and a right one -/

def bobRun : List Event × (Link UInt8 × LoginSession Unit) × Except Halt Unit :=
  Prog.iterate (processLoginReq bobTunables bobHost) 2 (bobLink, bobSession)

def bobGrant : Grant := ⟨.real, bytes "bob", [], 0, 0⟩

theorem loginService_authenticates_bob :
    bobRun.2.2 = .error (.loggedIn bobGrant) ∧ ∃ refused r,
      (∀ r' ∈ refused ++ [r], r'.Valid) ∧
      bobLink.source = (refused ++ [r]).flatMap Request.encode ++ bobRun.2.1.1.source ∧
      Authenticated bobTunables bobSession r bobRun.1 bobGrant := by
  have hgranted : bobRun.2.2 = .error (.loggedIn bobGrant) := by decide +kernel
  have hrun := loginService_authenticates bobTunables bobHost 2 bobLink bobSession rfl
  exact ⟨hgranted, hrun.2.2.2 bobGrant hgranted⟩

end Vsftpd.Login
