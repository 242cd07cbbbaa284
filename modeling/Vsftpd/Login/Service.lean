import Vsftpd.Lib.Wire
import Vsftpd.Login.DoLogin
import Vsftpd.Session.Requests
import Vsftpd.Ssl.Slave
import Vsftpd.SysIo

/-!
# The login service of the privileged parent

`process_login_req` in its loop.  The child before the login may send any bytes at all.  What
the parent then does is what it would do for a list of login requests, of which the bytes are
the encoding; nobody is let in but with a name and a password that were accepted.
-/

namespace Vsftpd.Login

open Vsftpd.Lib Vsftpd.Lib.Wire
open Vsftpd.Session (privSockLogin privSockResultBad intBytes bytesInt isAnonName strContainsLine
  bytesInt_intBytes)
open Vsftpd.Ssl (vsftpPrivsockMaxstr)
open Vsftpd.SysIo (unsignedInt again)
open Vsftpd.TwoProcess (LoginResult)

variable {W : Type}

/-! ## Reading a request -/

/-- Why no request is read. -/
inductive Stop where
  | die (text : String)
  | waiting
  deriving DecidableEq, Repr

def Stop.halt : Stop → Halt
  | .die text => .die text
  | .waiting => .waiting

/-- A read that fails ends the process in `vsf_sysutil_read_loop`. -/
def readTrouble (failure : String) : Trouble → Stop
  | .closed => .die failure
  | .failed => .die "retval too big in vsf_sysutil_read_loop"
  | .waiting => .waiting

abbrev LinkReader (A : Type) := Reader UInt8 Stop A

def privSockRead (size : Nat) (failure : String) : LinkReader Bytes := fun l =>
  (l.take again size).mapError (readTrouble failure)

def privSockGetCmd : LinkReader UInt8 := do
  let bs ← privSockRead 1 "priv_sock_get_cmd"
  pure (bs.headD 0)

def privSockGetInt : LinkReader Int := do
  let bs ← privSockRead 4 "priv_sock_get_int"
  pure (bytesInt (bs.getD 0 0) (bs.getD 1 0) (bs.getD 2 0) (bs.getD 3 0))

def privSockGetBody (len : Nat) : LinkReader Bytes :=
  if len > 0 then privSockRead len "priv_sock_get_str: read error" else pure []

def privSockGetStr : LinkReader Bytes := do
  let n ← privSockGetInt
  if unsignedInt n > vsftpPrivsockMaxstr then throw (.die "priv_sock_get_str: too big")
  else privSockGetBody (unsignedInt n)

/-- What `vsf_two_process_login` sends. -/
structure Request where
  userStr : Bytes
  passStr : Bytes
  controlUseSsl : Int
  dataUseSsl : Int
  deriving DecidableEq, Repr

def getLoginReq : LinkReader Request := do
  let cmd ← privSockGetCmd
  if cmd ≠ privSockLogin then throw (.die "bad request")
  else do
    let userStr ← privSockGetStr
    let passStr ← privSockGetStr
    let controlUseSsl ← privSockGetInt
    let dataUseSsl ← privSockGetInt
    pure ⟨userStr, passStr, controlUseSsl, dataUseSsl⟩

/-! ## Answering it -/

section
variable (cfg : Tunables) (host : Host W)

def privSockSendResult (res : UInt8) : M W Unit := do
  let ok ← Prog.emit (fun _ => .sendResult res)
    fun s => ((host.write res s.world).1, { s with world := (host.write res s.world).2 })
  if ok then pure () else Prog.halt (.die "priv_sock_send_result")

/-- The session when a request has come. -/
def given (r : Request) (s : LoginSession W) : LoginSession W :=
  { s with
    userStr := r.userStr
    controlUseSsl := if cfg.sslEnable then r.controlUseSsl else 0
    dataUseSsl := if cfg.sslEnable then r.dataUseSsl else 0 }

/-- A login that succeeds is left to `common_do_login`. -/
def answerLogin (r : Request) : M W Unit := do
  Prog.modify (given cfg r)
  let result ← vsfPrivopDoLogin cfg host r.passStr
  if result = .fail then privSockSendResult host privSockResultBad
  else do
    let s ← Prog.get
    Prog.halt (.loggedIn ⟨result, s.userStr, s.anonPassStr, s.controlUseSsl, s.dataUseSsl⟩)

def processLoginReq : Prog Event (Link UInt8 × LoginSession W) Halt Unit :=
  serveOne getLoginReq Stop.halt (answerLogin cfg host)

end

/-! ## The encoding of a request -/

def sentStr (s : Bytes) : Bytes := intBytes s.length ++ s

def IsInt (n : Int) : Prop := -(2 ^ 31) ≤ n ∧ n < 2 ^ 31

def Request.encode (r : Request) : Bytes :=
  [privSockLogin] ++ (sentStr r.userStr ++ (sentStr r.passStr ++
    (intBytes r.controlUseSsl ++ intBytes r.dataUseSsl)))

structure Request.Valid (r : Request) : Prop where
  user : r.userStr.length ≤ vsftpPrivsockMaxstr
  pass : r.passStr.length ≤ vsftpPrivsockMaxstr
  control : IsInt r.controlUseSsl
  data : IsInt r.dataUseSsl

theorem isInt_bytesInt (b0 b1 b2 b3 : UInt8) : IsInt (bytesInt b0 b1 b2 b3) := by
  have h0 := b0.toNat_lt
  have h1 := b1.toNat_lt
  have h2 := b2.toNat_lt
  have h3 := b3.toNat_lt
  unfold IsInt bytesInt
  dsimp only
  split_ifs <;> omega

theorem ofNat_byte {u : Nat} {b : UInt8} (h : u % 256 = b.toNat) : UInt8.ofNat u = b := by
  rw [← UInt8.toNat_inj, UInt8.toNat_ofNat']
  exact h

theorem intBytes_bytesInt (b0 b1 b2 b3 : UInt8) :
    intBytes (bytesInt b0 b1 b2 b3) = [b0, b1, b2, b3] := by
  have h0 := b0.toNat_lt
  have h1 := b1.toNat_lt
  have h2 := b2.toNat_lt
  have h3 := b3.toNat_lt
  have hval : (bytesInt b0 b1 b2 b3 % 2 ^ 32).toNat =
      b0.toNat + b1.toNat * 2 ^ 8 + b2.toNat * 2 ^ 16 + b3.toNat * 2 ^ 24 := by
    unfold bytesInt
    dsimp only
    split_ifs <;> omega
  unfold intBytes
  dsimp only
  rw [hval, ofNat_byte (b := b0) (by omega), ofNat_byte (b := b1) (by omega),
    ofNat_byte (b := b2) (by omega), ofNat_byte (b := b3) (by omega)]

theorem bytesInt_getD {n : Int} (h : IsInt n) :
    bytesInt ((intBytes n).getD 0 0) ((intBytes n).getD 1 0) ((intBytes n).getD 2 0)
      ((intBytes n).getD 3 0) = n :=
  bytesInt_intBytes h.1 h.2 rfl

/-! ## The readers are exact -/

theorem exact_privSockRead {size : Nat} (hsize : 0 < size) (failure : String) :
    Exact again (privSockRead size failure) (fun bs => bs) fun bs => bs.length = size :=
  exact_take hsize

theorem exact_privSockGetCmd : Exact again privSockGetCmd (fun c => [c]) fun _ => True := by
  refine (exact_privSockRead (by decide) _).bind (fun c => [c])
    (fun bs _ => exact_pure (bs.headD 0)) ?_ ?_ fun c _ => rfl
  · intro bs c hlength hc
    obtain ⟨b, rfl⟩ := List.length_eq_one_iff.mp hlength
    rw [hc]
    rfl
  · exact fun c => iff_of_true trivial ⟨rfl, rfl⟩

theorem exact_privSockGetInt : Exact again privSockGetInt intBytes IsInt := by
  refine (exact_privSockRead (by decide) _).bind intBytes (fun bs _ => exact_pure _) ?_ ?_
    fun n _ => (List.append_nil _).symm
  · intro bs n hlength hn
    rw [hn]
    match bs, hlength with
    | [b0, b1, b2, b3], _ => exact intBytes_bytesInt b0 b1 b2 b3
  · intro n
    constructor
    · exact fun h => ⟨rfl, (bytesInt_getD h).symm⟩
    · intro h
      rw [h.2]
      exact isInt_bytesInt _ _ _ _

theorem exact_privSockGetBody (len : Nat) :
    Exact again (privSockGetBody len) (fun bs => bs) fun bs => bs.length = len := by
  unfold privSockGetBody
  by_cases hlen : len > 0
  · rw [if_pos hlen]
    exact exact_privSockRead hlen _
  · rw [if_neg hlen]
    have hnil : Exact again (pure [] : LinkReader Bytes) (fun _ => []) fun bs => bs = [] :=
      exact_pure []
    refine ⟨fun l bs l' h => ?_, fun l bs rest hlively hbs hsource => ?_⟩
    · obtain ⟨hbs, hsource⟩ := hnil.sound l bs l' h
      rw [hbs]
      exact ⟨by rw [List.length_nil]; omega, hsource⟩
    · obtain rfl : bs = [] := List.length_eq_zero_iff.mp (by omega)
      exact hnil.complete l [] rest hlively rfl hsource

theorem maxstr_eq : vsftpPrivsockMaxstr = 131072 := rfl

theorem exact_privSockGetStr :
    Exact again privSockGetStr sentStr fun s => s.length ≤ vsftpPrivsockMaxstr := by
  refine exact_privSockGetInt.bind (fun s : Bytes => (s.length : Int))
    (fun n _ => Exact.guard fun _ => exact_privSockGetBody (unsignedInt n)) ?_ ?_ fun s _ => rfl
  · intro n s hn hs
    obtain ⟨hmax, hlength⟩ := hs
    have hlo := hn.1
    have hhi := hn.2
    rw [maxstr_eq] at hmax
    unfold unsignedInt at hmax hlength
    omega
  · intro s
    rw [maxstr_eq]
    unfold IsInt unsignedInt
    omega

/-- The last part of a request, when the others are known. -/
theorem exact_flags (userStr passStr : Bytes) :
    Exact again
      (do
        let controlUseSsl ← privSockGetInt
        let dataUseSsl ← privSockGetInt
        pure (Request.mk userStr passStr controlUseSsl dataUseSsl))
      (fun r => intBytes r.controlUseSsl ++ intBytes r.dataUseSsl)
      fun r => (r.userStr = userStr ∧ r.passStr = passStr) ∧
        IsInt r.controlUseSsl ∧ IsInt r.dataUseSsl := by
  have hdata (control : Int) : Exact again
      (do
        let dataUseSsl ← privSockGetInt
        pure (Request.mk userStr passStr control dataUseSsl))
      (fun r => intBytes r.dataUseSsl)
      fun r => (r.userStr = userStr ∧ r.passStr = passStr) ∧ r.controlUseSsl = control ∧
        IsInt r.dataUseSsl := by
    refine exact_privSockGetInt.bind Request.dataUseSsl
      (fun data _ => exact_pure (Request.mk userStr passStr control data)) ?_ ?_
      fun r _ => (List.append_nil _).symm
    · intro data r _ hr
      rw [hr]
    · intro r
      cases r
      simp only [Request.mk.injEq, and_true]
      tauto
  refine exact_privSockGetInt.bind Request.controlUseSsl (fun control _ => hdata control) ?_ ?_
    fun r _ => rfl
  · exact fun control r _ hr => hr.2.1
  · exact fun r => by tauto

theorem exact_getLoginReq : Exact again getLoginReq Request.encode Request.Valid := by
  have hpass (userStr : Bytes) : Exact again
      (do
        let passStr ← privSockGetStr
        let controlUseSsl ← privSockGetInt
        let dataUseSsl ← privSockGetInt
        pure (Request.mk userStr passStr controlUseSsl dataUseSsl))
      (fun r => sentStr r.passStr ++ (intBytes r.controlUseSsl ++ intBytes r.dataUseSsl))
      fun r => r.userStr = userStr ∧ r.passStr.length ≤ vsftpPrivsockMaxstr ∧
        IsInt r.controlUseSsl ∧ IsInt r.dataUseSsl := by
    refine exact_privSockGetStr.bind Request.passStr (fun passStr _ => exact_flags userStr passStr)
      ?_ ?_ fun r _ => rfl
    · exact fun passStr r _ hr => hr.1.2
    · exact fun r => by tauto
  have huser : Exact again
      (do
        let userStr ← privSockGetStr
        let passStr ← privSockGetStr
        let controlUseSsl ← privSockGetInt
        let dataUseSsl ← privSockGetInt
        pure (Request.mk userStr passStr controlUseSsl dataUseSsl))
      (fun r => sentStr r.userStr ++
        (sentStr r.passStr ++ (intBytes r.controlUseSsl ++ intBytes r.dataUseSsl)))
      Request.Valid := by
    refine exact_privSockGetStr.bind Request.userStr (fun userStr _ => hpass userStr) ?_ ?_
      fun r _ => rfl
    · exact fun userStr r _ hr => hr.1
    · intro r
      constructor
      · exact fun h => ⟨h.user, rfl, h.pass, h.control, h.data⟩
      · exact fun h => ⟨h.1, h.2.2.1, h.2.2.2.1, h.2.2.2.2⟩
  have hrest (cmd : UInt8) := Exact.guard (c := cmd ≠ privSockLogin) (e := Stop.die "bad request")
    fun _ => huser
  refine exact_privSockGetCmd.bind (fun _ => privSockLogin) (fun cmd _ => hrest cmd) ?_ ?_
    fun r _ => rfl
  · exact fun cmd r _ hr => (not_not.mp hr.1).symm
  · exact fun r => ⟨fun h => ⟨trivial, fun hne => hne rfl, h⟩, fun h => h.2.2⟩

/-- Whatever the child sends, the parent serves a list of requests: the one whose encoding is
what it has read.  Requests that the child sends are served as they were sent. -/
theorem loginService_refines (cfg : Tunables) (host : Host W) :
    (∀ n l s, ∃ requests, Wire.Serves Request.encode Request.Valid Stop.halt
      (answerLogin cfg host) n l s requests (Prog.iterate (processLoginReq cfg host) n (l, s))) ∧
    ∀ requests rest l s, l.Lively again → (∀ r ∈ requests, r.Valid) →
      l.source = requests.flatMap Request.encode ++ rest →
      ∃ l', Prog.iterate (processLoginReq cfg host) requests.length (l, s) =
        ((Prog.forEach (answerLogin cfg host) requests s).1,
          (l', (Prog.forEach (answerLogin cfg host) requests s).2.1),
          (Prog.forEach (answerLogin cfg host) requests s).2.2) :=
  ⟨fun n l s => serve_sound exact_getLoginReq n l s,
    fun requests rest l s => serve_complete exact_getLoginReq requests rest l s⟩

/-! ### A wrong guess and a right one -/

/-- A database with one user. -/
def bobHost : Host Unit where
  checkAuth user pass _ w := ((user = bytes "bob" && pass = bytes "pw", user), w)
  write _ w := (true, w)

def bobGuess (pass : String) : Request := ⟨bytes "bob", bytes pass, 0, 0⟩

/-- The two requests, byte by byte. -/
def bobLink : Link UInt8 :=
  ⟨List.replicate 44 (.moved 1), (bobGuess "xx").encode ++ (bobGuess "pw").encode⟩

def bobTunables : Tunables := { localEnable := true }

def bobSession : LoginSession Unit := { world := () }

theorem bobLink_lively : bobLink.Lively again where
  sound := by
    intro a ha
    rw [List.eq_of_mem_replicate ha]
    exact .inl rfl
  enough := by decide +kernel

theorem bobGuess_valid (pass : String) (hpass : (bytes pass).length ≤ vsftpPrivsockMaxstr) :
    (bobGuess pass).Valid where
  user := by
    show (bytes "bob").length ≤ vsftpPrivsockMaxstr
    decide +kernel
  pass := hpass
  control := by
    show IsInt 0
    exact ⟨by decide, by decide⟩
  data := by
    show IsInt 0
    exact ⟨by decide, by decide⟩

theorem loginService_refines_bob :
    let requests := [bobGuess "xx", bobGuess "pw"]
    ∃ l', Prog.iterate (processLoginReq bobTunables bobHost) 2 (bobLink, bobSession) =
      ((Prog.forEach (answerLogin bobTunables bobHost) requests bobSession).1,
        (l', (Prog.forEach (answerLogin bobTunables bobHost) requests bobSession).2.1),
        (Prog.forEach (answerLogin bobTunables bobHost) requests bobSession).2.2) := by
  have hvalid : ∀ r ∈ [bobGuess "xx", bobGuess "pw"], r.Valid := by
    intro r hr
    rcases List.mem_pair.mp hr with rfl | rfl
    · exact bobGuess_valid "xx" (by decide +kernel)
    · exact bobGuess_valid "pw" (by decide +kernel)
  exact (loginService_refines bobTunables bobHost).2 _ [] bobLink bobSession bobLink_lively hvalid
    rfl

end Vsftpd.Login
