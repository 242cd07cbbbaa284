import Vsftpd.UcharFields
import Vsftpd.Session.ReplyLine
import Vsftpd.Session.TransferCalls

/-!
# The numbers of a 227 reply

PASV shows an address and a port in six numbers, which are to be read as those of PORT
are.
-/

namespace Vsftpd.Session

open Vsftpd.Lib

variable {W : Type} {cfg : Tunables} {k : Kernel W}

/-- The reply with the six numbers. -/
def pasvText (numbers : Bytes) : Bytes := bytes "Entering Passive Mode (" ++ numbers ++ bytes ")."

/-- The IPv4 address that an address is or holds. -/
def ipv4Of : SockAddr → Option InAddr
  | .inet a _ => some a
  | .inet6 a port scope => vsfSysutilSockaddrIpv6V4 (.inet6 a port scope)

/-- The address that is to be shown: the one of `pasv_address`, else the local one. -/
def advertised (cfg : Tunables) (k : Kernel W) (localAddr : SockAddr) : Option InAddr :=
  match cfg.pasvAddress with
  | some text => k.inetAton text
  | none => ipv4Of localAddr

def portBytes (port : UInt16) : Bytes :=
  [UInt8.ofNat (port.toNat / 256), UInt8.ofNat (port.toNat % 256)]

theorem portBytes_toNat (port : UInt16) :
    (UInt8.ofNat (port.toNat / 256)).toNat = port.toNat / 256 ∧
      (UInt8.ofNat (port.toNat % 256)).toNat = port.toNat % 256 := by
  have hlt := port.toNat_lt
  rw [UInt8.toNat_ofNat', UInt8.toNat_ofNat']
  omega

/-- What the six numbers are for an address. -/
def sixNumbers (a : InAddr) (port : UInt16) : Bytes := numbersText comma (a.1 ++ portBytes port)

theorem strReplaceChar_append (s t : Bytes) (old new : UInt8) :
    strReplaceChar (s ++ t) old new = strReplaceChar s old new ++ strReplaceChar t old new :=
  List.map_append

theorem numbersText_six (a : InAddr) (port : UInt16) :
    sixNumbers a port = numbersText comma a.1 ++
      (comma :: vsfSysutilUlongToStr (port.toNat / 256)) ++
      (comma :: vsfSysutilUlongToStr (port.toNat % 256)) := by
  have hne : a.1 ≠ [] := by
    intro h
    have hlen := a.2
    rw [h] at hlen
    cases hlen
  have hport := portBytes_toNat port
  have hsplit : a.1 ++ portBytes port = a.1 ++ [UInt8.ofNat (port.toNat / 256)] ++
      [UInt8.ofNat (port.toNat % 256)] := by
    rw [List.append_assoc]
    rfl
  rw [sixNumbers, hsplit, numbersText_concat _ _ (by simp), numbersText_concat _ _ hne, hport.1,
    hport.2]

/-- The text around what is shown for the address. -/
theorem pasvReply_eq (isIpv6 : Bool) (p : SockAddr) (port : UInt16) :
    pasvReply isIpv6 p port = pasvText (strReplaceChar (shownAddr isIpv6 p) 46 comma ++
      (comma :: vsfSysutilUlongToStr (port.toNat / 256)) ++
      (comma :: vsfSysutilUlongToStr (port.toNat % 256))) := by
  have hcomma : bytes "," = [comma] := by decide
  have hstart : strReplaceChar (bytes "Entering Passive Mode (") 46 comma =
      bytes "Entering Passive Mode (" := by decide
  unfold pasvReply pasvText
  rw [strReplaceChar_append, hstart, hcomma]
  simp

theorem pasvReply_inet (a : InAddr) (port thePort : UInt16) :
    pasvReply false (.inet a port) thePort = pasvText (sixNumbers a thePort) := by
  have hshown : strReplaceChar (shownAddr false (.inet a port)) 46 comma =
      numbersText comma a.1 := strReplaceChar_numbersText (by decide) comma a.1
  rw [pasvReply_eq, hshown, numbersText_six]

theorem pasvReply_mapped {p : SockAddr} {a : InAddr} (h : vsfSysutilSockaddrIpv6V4 p = some a)
    (thePort : UInt16) : pasvReply true p thePort = pasvText (sixNumbers a thePort) := by
  have hshown : strReplaceChar (shownAddr true p) 46 comma = numbersText comma a.1 := by
    unfold shownAddr
    rw [h]
    exact strReplaceChar_numbersText (by decide) comma a.1
  rw [pasvReply_eq, hshown, numbersText_six]

def inaddrAny : InAddr := ⟨[0, 0, 0, 0], rfl⟩

theorem pasvReply_none {p : SockAddr} (h : vsfSysutilSockaddrIpv6V4 p = none) (thePort : UInt16) :
    pasvReply true p thePort = pasvText (sixNumbers inaddrAny thePort) := by
  have hshown : strReplaceChar (shownAddr true p) 46 comma = numbersText comma inaddrAny.1 := by
    unfold shownAddr
    rw [h]
    show strReplaceChar (bytes "0,0,0,0") 46 comma = _
    decide
  rw [pasvReply_eq, hshown, numbersText_six]

theorem portArgument_sixNumbers (a : InAddr) (port : UInt16) :
    portArgument (vsfSysutilParseUcharStringSep (sixNumbers a port) comma 6) = some (a, port) := by
  obtain ⟨addr, hlen⟩ := a
  have hcount : (addr ++ portBytes port).length = 6 := by
    rw [List.length_append, hlen]
    rfl
  have hparse : vsfSysutilParseUcharStringSep (numbersText comma (addr ++ portBytes port)) comma
      (addr ++ portBytes port).length = some (addr ++ portBytes port) :=
    parse_numbersText (by decide) (by decide) (by rw [← List.length_pos_iff]; omega)
  rw [hcount] at hparse
  have hport : UInt16.ofNat ((UInt8.ofNat (port.toNat / 256)).toNat * 256 +
      (UInt8.ofNat (port.toNat % 256)).toNat) = port := by
    rw [(portBytes_toNat port).1, (portBytes_toNat port).2, Nat.div_add_mod', UInt16.ofNat_toNat]
  rw [sixNumbers, hparse]
  cases addr with
  | nil => cases hlen
  | cons w rest =>
      cases rest with
      | nil => cases hlen
      | cons x rest =>
          cases rest with
          | nil => cases hlen
          | cons y rest =>
              cases rest with
              | nil => cases hlen
              | cons z rest =>
                  obtain rfl : rest = [] := List.length_eq_zero_iff.mp (by simpa using hlen)
                  show some (_, UInt16.ofNat _) = _
                  rw [hport]

/-! ## What the command sends -/

/-- The text of the reply, if `pasv_address` can be read. -/
def pasvReplyTo (cfg : Tunables) (k : Kernel W) (localAddr : SockAddr) (port : UInt16) :
    Option Bytes :=
  match cfg.pasvAddress with
  | none =>
    some (pasvReply (vsfSysutilSockaddrIsIpv6 localAddr) (vsfSysutilSockaddrClone localAddr) port)
  | some text =>
    (k.inetAton text).map fun a => pasvReply (vsfSysutilSockaddrIsIpv6 localAddr) (.inet a 0) port

/-- The address that is shown: none of IPv4 is found in the configured one when the local one
is of IPv6. -/
def shownInAddr (cfg : Tunables) (localAddr : SockAddr) (addr : InAddr) : InAddr :=
  if vsfSysutilSockaddrIsIpv6 localAddr = true ∧ cfg.pasvAddress.isSome = true then inaddrAny
  else addr

theorem pasvReplyTo_eq {localAddr : SockAddr} {addr : InAddr}
    (haddr : advertised cfg k localAddr = some addr) (port : UInt16) :
    pasvReplyTo cfg k localAddr port =
      some (pasvText (sixNumbers (shownInAddr cfg localAddr addr) port)) := by
  unfold advertised at haddr
  unfold pasvReplyTo shownInAddr
  cases hconf : cfg.pasvAddress with
  | none =>
      rw [hconf] at haddr
      rw [if_neg (fun h => Bool.noConfusion h.2)]
      cases localAddr with
      | inet a p =>
          obtain rfl := Option.some.inj haddr
          exact congrArg some (pasvReply_inet a 0 port)
      | inet6 a p scope => exact congrArg some (pasvReply_mapped (p := .inet6 a 0 scope) haddr port)
  | some text =>
      rw [hconf] at haddr
      have haton : k.inetAton text = some addr := haddr
      dsimp only
      rw [haton, Option.map_some]
      cases localAddr with
      | inet a p => exact congrArg some (pasvReply_inet addr 0 port)
      | inet6 a p scope => exact congrArg some (pasvReply_none rfl port)

/-- The new listener. -/
def pasvListener (cfg : Tunables) (k : Kernel W) : M W UInt16 := do
  pasvCleanup cfg k
  portCleanup
  listenPasv cfg k

theorem pasvListener_localAddr {s : State W} {port : UInt16}
    (hport : (pasvListener cfg k s).2.2 = .ok port) :
    (pasvListener cfg k s).2.1.session.localAddr = s.session.localAddr := by
  have hk : KeepsFs k fun _ : W => () := keepsFs_unit k
  have hleaves : LeavesNames (fun _ : W => ()) (pasvListener cfg k) :=
    Quiet.bind (leavesNames_pasvCleanup hk) fun _ =>
      Quiet.bind (leavesNames_update fun _ => rfl) fun _ => leavesNames_listenPasv hk
  obtain ⟨-, hknown⟩ := hleaves (s.known _) s rfl
  rw [hport] at hknown
  exact congrArg (fun v => v.2.2) hknown

def replyPasv (cfg : Tunables) (k : Kernel W) (thePort : UInt16) : M W Unit := do
  let sess ← getSess .session
  match pasvReplyTo cfg k sess.localAddr thePort with
  | none => die "invalid pasv_address"
  | some text => vsfCmdioWriteStr cfg k 227 text

theorem enterPasv_eq : enterPasv cfg k false = pasvListener cfg k >>= replyPasv cfg k := by
  unfold pasvListener
  rw [Prog.bind_assoc]
  unfold enterPasv
  congr 1
  funext _
  rw [Prog.bind_assoc]
  congr 1
  funext _
  congr 1
  funext thePort
  unfold replyPasv pasvReplyTo
  congr 1
  funext sess
  rw [if_neg (by decide)]
  cases cfg.pasvAddress with
  | none => rfl
  | some text =>
      dsimp only
      cases k.inetAton text with
      | none => rfl
      | some a => rfl

theorem handlePasv_eq : handlePasv cfg k false = pasvListener cfg k >>= replyPasv cfg k := by
  rw [← enterPasv_eq]
  rfl

theorem mangleText_pasvText (a : InAddr) (port : UInt16) :
    mangleText (pasvText (sixNumbers a port)) = pasvText (sixNumbers a port) := by
  have hnumbers : ∀ c ∈ sixNumbers a port, c ≠ 10 ∧ c ≠ 255 := by
    intro c hc
    rcases mem_numbersText hc with hdigit | rfl
    · constructor
      · rintro rfl
        exact absurd hdigit (by decide)
      · rintro rfl
        exact absurd hdigit (by decide)
    · decide
  have hwords : ∀ c ∈ bytes "Entering Passive Mode (" ++ bytes ").", c ≠ 10 ∧ c ≠ 255 := by
    decide +kernel
  have hplain : ∀ c ∈ pasvText (sixNumbers a port), c ≠ 10 ∧ c ≠ 255 := by
    intro c hc
    rcases List.mem_append.mp hc with hc | hc
    · rcases List.mem_append.mp hc with hc | hc
      · exact hwords c (List.mem_append_left _ hc)
      · exact hnumbers c hc
    · exact hwords c (List.mem_append_right _ hc)
  have hnewline : (10 : UInt8) ∉ pasvText (sixNumbers a port) := fun h => (hplain 10 h).1 rfl
  have htelnet : (255 : UInt8) ∉ pasvText (sixNumbers a port) := fun h => (hplain 255 h).2 rfl
  rw [mangleText_eq, strReplaceChar_of_not_mem hnewline, Doubling.double_of_not_mem htelnet]

theorem pasvText_inj {n n' : Bytes} (h : pasvText n = pasvText n') : n = n' := by
  unfold pasvText at h
  rw [List.append_assoc, List.append_assoc] at h
  exact List.append_cancel_right (List.append_cancel_left h)

theorem replyPasv_events {s : State W} {addr : InAddr} {p : UInt16}
    (haddr : advertised cfg k s.session.localAddr = some addr) :
    ∃ rest, (replyPasv cfg k p s).1 =
      ⟨.send 227 32 (pasvText (sixNumbers (shownInAddr cfg s.session.localAddr addr) p)), s⟩ ::
        rest := by
  have hwrite : replyPasv cfg k p s = vsfCmdioWriteStr cfg k 227
      (pasvText (sixNumbers (shownInAddr cfg s.session.localAddr addr) p)) s := by
    show (match pasvReplyTo cfg k s.session.localAddr p with
      | none => die "invalid pasv_address"
      | some text => vsfCmdioWriteStr cfg k 227 text) s = _
    rw [pasvReplyTo_eq haddr]
  rw [hwrite, vsfCmdioWriteStr, ftpWriteStrCommon, mangleText_pasvText]
  exact ⟨_, rfl⟩

/-- The first thing that is sent when there is a listener at `port` is the reply, and its
numbers are read as the address and the port. -/
def PasvRoundTrip (cfg : Tunables) (k : Kernel W) (s : State W) (addr : InAddr) (port : UInt16) :
    Prop :=
  ∃ numbers rest, (handlePasv cfg k false s).1 = (pasvListener cfg k s).1 ++
      ⟨.send 227 32 (pasvText numbers), (pasvListener cfg k s).2.1⟩ :: rest ∧
    portArgument (vsfSysutilParseUcharStringSep numbers comma 6) = some (addr, port)

theorem pasvRoundTrip_iff_shown {s : State W} {addr : InAddr} {port : UInt16}
    (hport : (pasvListener cfg k s).2.2 = .ok port)
    (haddr : advertised cfg k s.session.localAddr = some addr) :
    PasvRoundTrip cfg k s addr port ↔ shownInAddr cfg s.session.localAddr addr = addr := by
  have hlocal : (pasvListener cfg k s).2.1.session.localAddr = s.session.localAddr :=
    pasvListener_localAddr hport
  rw [← hlocal] at haddr ⊢
  have hevents : (handlePasv cfg k false s).1 =
      (pasvListener cfg k s).1 ++ (replyPasv cfg k port (pasvListener cfg k s).2.1).1 := by
    rw [handlePasv_eq]
    exact Prog.bind_events hport
  obtain ⟨rest, hreply⟩ := replyPasv_events (p := port) haddr
  unfold PasvRoundTrip
  rw [hevents, hreply]
  constructor
  · rintro ⟨numbers, rest', heq, hread⟩
    obtain ⟨hevent, -⟩ := List.cons.inj (List.append_cancel_left heq)
    have htext := congrArg Event.call hevent
    injection htext with _ _ htext
    rw [← pasvText_inj htext, portArgument_sixNumbers] at hread
    exact congrArg Prod.fst (Option.some.inj hread)
  · intro hshown
    rw [hshown]
    exact ⟨sixNumbers addr port, rest, rfl, portArgument_sixNumbers addr port⟩

/-- The reply says what it should unless `pasv_address` is set, to an address other than
0.0.0.0, and the local address is of IPv6. -/
theorem pasvReply_roundTrip_iff (cfg : Tunables) (k : Kernel W) (s : State W) {port : UInt16}
    {addr : InAddr} (hport : (pasvListener cfg k s).2.2 = .ok port)
    (haddr : advertised cfg k s.session.localAddr = some addr) :
    PasvRoundTrip cfg k s addr port ↔
      ¬ (vsfSysutilSockaddrIsIpv6 s.session.localAddr = true ∧
        cfg.pasvAddress.isSome = true ∧ addr ≠ inaddrAny) := by
  rw [pasvRoundTrip_iff_shown hport haddr]
  unfold shownInAddr
  split_ifs with hv6
  · rw [eq_comm, and_iff_right hv6.1, and_iff_right hv6.2, not_not]
  · exact iff_of_true rfl fun h => hv6 ⟨h.1, h.2.1⟩

/-- A client of 127.0.0.1. -/
theorem pasvReply_roundTrip_local :
    PasvRoundTrip { oneProcessModel := true } scriptKernel
        (scriptLogin { oneProcessModel := true } true [] []) inaddrLoopback 5001 ↔
      ¬ (vsfSysutilSockaddrIsIpv6
          (scriptLogin { oneProcessModel := true } true [] []).session.localAddr = true ∧
        (none : Option Bytes).isSome = true ∧ inaddrLoopback ≠ inaddrAny) :=
  pasvReply_roundTrip_iff { oneProcessModel := true } scriptKernel _ rfl rfl

/-! ### A configured address over IPv6 -/

def pasvAddressTen : Tunables :=
  { oneProcessModel := true, pasvAddress := some (bytes "10.0.0.1") }

def inaddrTen : InAddr := ⟨[10, 0, 0, 1], rfl⟩

def tenKernel : Kernel Script := { scriptKernel with inetAton := fun _ => some inaddrTen }

/-- A client that connected over IPv6 to the address that 127.0.0.1 is mapped to. -/
def mappedClient : VsfSession where
  localAddr := .inet6 (v4Mapped inaddrLoopback) 21 0
  remoteAddr := .inet6 (v4Mapped inaddrLoopback) 40000 0

theorem pasvReply_configured_ipv6 :
    (pasvListener pasvAddressTen tenKernel
        (atLogin pasvAddressTen mappedClient { lines := [] })).2.2 = .ok 5001 ∧
      ¬ PasvRoundTrip pasvAddressTen tenKernel
        (atLogin pasvAddressTen mappedClient { lines := [] }) inaddrTen 5001 := by
  have hport : (pasvListener pasvAddressTen tenKernel
      (atLogin pasvAddressTen mappedClient { lines := [] })).2.2 = .ok 5001 := rfl
  rw [pasvRoundTrip_iff_shown hport rfl]
  exact ⟨hport, by decide⟩

end Vsftpd.Session
