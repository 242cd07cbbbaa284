import Vsftpd.Session.Connections

/-!
# Requests to the parent

What is said on the channel changes the core of the state and nothing else does.  A
request is answered before the session goes on, so the channel is empty again
afterwards.
-/

namespace Vsftpd.Session

open Vsftpd.Lib

variable {W X α : Type} {cfg : Tunables} {k : Kernel W} {base : VsfSession} {φ : W → X}
  {may : SockAddr → Prop} {start s : State W}

/-! ## The channel in the core -/

/-- The core with these bytes on the channel. -/
def Core.talk (c : Core X) (toParent toChild : List ChannelByte) (turn : Proc) : Core X :=
  { c with toParent := toParent, toChild := toChild, turn := turn }

/-- Nothing is said and the session runs. -/
structure Idle (c : Core X) : Prop where
  toParent : c.toParent = []
  toChild : c.toChild = []
  turn : c.turn = .session

theorem Idle.talk {c : Core X} (h : Idle c) : c.talk [] [] .session = c := by
  calc c.talk [] [] .session
      = c.talk c.toParent c.toChild c.turn := by rw [h.toParent, h.toChild, h.turn]
    _ = c := rfl

theorem Idle.running {c : Core X} (h : Idle c) (hd : Detached c) : Running cfg base c :=
  ⟨hd.eventInv, h.turn⟩

/-- The session runs whatever is on the channel. -/
theorem Detached.runningTalk {c : Core X} (h : Detached c) (toParent toChild : List ChannelByte) :
    Running cfg base (c.talk toParent toChild .session) := by
  have hinv : EventInv cfg base c := h.eventInv
  exact ⟨{ hinv with }, rfl⟩

theorem Detached.talk {c : Core X} (h : Detached c) (toParent toChild : List ChannelByte)
    (turn : Proc) : Detached (c.talk toParent toChild turn) :=
  { h with }

theorem Core.setListenOf_talk (c : Core X) (p : Proc) (fd : Fd)
    (toParent toChild : List ChannelByte) (turn : Proc) :
    (c.talk toParent toChild turn).setListenOf p fd =
      (c.setListenOf p fd).talk toParent toChild turn := by
  cases p <;> rfl

def Core.incoming (c : Core X) : Proc → List ChannelByte
  | .session => c.toChild
  | .parent => c.toParent

def Core.setIncoming (c : Core X) (p : Proc) (bs : List ChannelByte) : Core X :=
  match p with
  | .session => { c with toChild := bs }
  | .parent => { c with toParent := bs }

theorem incoming_core (s : State W) (p : Proc) : s.incoming p = (s.core φ).incoming p := by
  cases p <;> rfl

theorem core_setIncoming (s : State W) (p : Proc) (bs : List ChannelByte) :
    (s.setIncoming p bs).core φ = (s.core φ).setIncoming p bs := by
  cases p <;> rfl

/-! ## Writing and reading -/

theorem bytesInt_intBytes {n : Int} (hlo : -(2 ^ 31) ≤ n) (hhi : n < 2 ^ 31)
    {b0 b1 b2 b3 : UInt8} (h : intBytes n = [b0, b1, b2, b3]) : bytesInt b0 b1 b2 b3 = n := by
  simp only [intBytes, List.cons.injEq, and_true] at h
  obtain ⟨rfl, rfl, rfl, rfl⟩ := h
  have hmod : (0 : Int) ≤ n % 2 ^ 32 := Int.emod_nonneg n (by decide)
  have hval : ((n % 2 ^ 32).toNat : Int) = n % 2 ^ 32 := Int.toNat_of_nonneg hmod
  have hlt : n % 2 ^ 32 < 2 ^ 32 := Int.emod_lt_of_pos n (by decide)
  simp only [bytesInt, UInt8.toNat_ofNat']
  generalize (n % 2 ^ 32).toNat = u at hval
  have hu : u % 2 ^ 8 + u / 2 ^ 8 % 2 ^ 8 * 2 ^ 8 + u / 2 ^ 16 % 2 ^ 8 * 2 ^ 16 +
      u / 2 ^ 24 % 2 ^ 8 * 2 ^ 24 = u := by omega
  rw [hu]
  split_ifs with hsmall
  · omega
  · omega

theorem privSockWrite_calm {p : Proc} {bs : Bytes} {failure : String} {Q : Unit → State W → Prop}
    (hk : KeepsFs k φ) (hd : Detached (s.core φ))
    (hfailure : failure ∉ lockstepFailures)
    (hq : ∀ s', s'.core φ = (s.core φ).setIncoming p.other
      ((s.core φ).incoming p.other ++ bs.map fun b => ⟨b, none⟩) → Q () s') :
    wp (sessionRequirement cfg k base φ may start) (privSockWrite k p bs failure) Q s := by
  rw [privSockWrite, wp_bind]
  refine sharedSys_wp hk trivial hd fun ok s1 h1 _ => wp_ite.mpr ⟨fun _ => ?_, fun _ => ?_⟩
  · refine wp_modify.mpr (hq _ ?_)
    rw [core_setIncoming, incoming_core (φ := φ), h1]
  · exact wp_die.mpr (answerable_die _ _ _ _ hfailure)

theorem privSockGetByte_calm {p : Proc} {b : ChannelByte} {bs : List ChannelByte}
    {failure : String} {Q : UInt8 → State W → Prop}
    (hin : (s.core φ).incoming p = b :: bs)
    (hq : ∀ s', s'.core φ = (s.core φ).setIncoming p bs → Q b.byte s') :
    wp (sessionRequirement cfg k base φ may start) (privSockGetByte p failure) Q s := by
  rw [privSockGetByte, wp_bind, wp_get]
  rw [← incoming_core] at hin
  rw [hin]
  show wp _ (_ >>= _) _ _
  rw [wp_bind, wp_modify, wp_pure]
  exact hq _ (core_setIncoming s p bs)

theorem privSockGetInt_calm {p : Proc} {b0 b1 b2 b3 : ChannelByte} {bs : List ChannelByte}
    {Q : Int → State W → Prop} (hin : (s.core φ).incoming p = b0 :: b1 :: b2 :: b3 :: bs)
    (hq : ∀ s', s'.core φ = (s.core φ).setIncoming p bs →
      Q (bytesInt b0.byte b1.byte b2.byte b3.byte) s') :
    wp (sessionRequirement cfg k base φ may start) (privSockGetInt p) Q s := by
  rw [privSockGetInt, wp_bind, wp_get]
  rw [← incoming_core] at hin
  rw [hin]
  show wp _ (_ >>= _) _ _
  rw [wp_bind, wp_modify, wp_pure]
  exact hq _ (core_setIncoming s p bs)

/-- Who passes descriptors: the parent, and the session for an upload or to its SSL slave. -/
theorem privSockSendFd_calm {p : Proc} {fd : Fd} {Q : Unit → State W → Prop}
    (hk : KeepsFs k φ) (hd : Detached (s.core φ))
    (hsender : (s.core φ).turn = .session →
      GivesAway cfg k base φ start ∨ base.sslSlaveActive = true)
    (hq : ∀ s', s'.core φ = (s.core φ).setIncoming p.other
      ((s.core φ).incoming p.other ++ [⟨0, some ⟨fd.toNat, s.socks fd⟩⟩]) → Q () s') :
    wp (sessionRequirement cfg k base φ may start) (privSockSendFd k p fd) Q s := by
  rw [privSockSendFd, wp_bind, wp_get, wp_bind, wp_sys]
  refine ⟨⟨hd.eventInv, fun _ => trivial, hsender⟩, wp_ite.mpr ⟨fun _ => ?_, fun _ => ?_⟩⟩
  · refine wp_modify.mpr (hq _ ?_)
    rw [core_setIncoming, incoming_core (φ := φ), core_run hk (c := .sendFd fd) trivial s]
  · exact wp_die.mpr (answerable_die _ _ _ _ (by decide))

theorem privSockRecvFd_calm {p : Proc} {b : UInt8} {passed : Passed} {bs : List ChannelByte}
    {Q : Fd → State W → Prop} (hk : KeepsFs k φ) (hd : Detached (s.core φ))
    (hreceiver : (s.core φ).turn = .parent → GivesAway cfg k base φ start)
    (hin : (s.core φ).incoming p = ⟨b, some passed⟩ :: bs)
    (hq : ∀ fd s', 0 ≤ fd → s'.core φ = (s.core φ).setIncoming p bs →
      s'.socks fd = passed.sock → Q fd s') :
    wp (sessionRequirement cfg k base φ may start) (privSockRecvFd k p) Q s := by
  rw [privSockRecvFd, wp_bind, wp_get]
  rw [← incoming_core] at hin
  rw [hin]
  show wp _ (_ >>= _) _ _
  rw [wp_bind, wp_modify, wp_bind]
  have hd1 : Detached ((s.setIncoming p bs).core φ) := by
    rw [core_setIncoming]
    cases p <;> exact { hd with }
  have hturn1 : ((s.setIncoming p bs).core φ).turn = (s.core φ).turn := by
    rw [core_setIncoming]
    cases p <;> rfl
  refine newFd_wp fun fd s2 hfd h2 => ?_
  rw [wp_bind]
  refine modifySock_wp (h2 ▸ hd1) fun s3 h3 hsock => ?_
  rw [wp_bind, wp_sys]
  have h32 := h3.trans h2
  have hturn3 : s3.turn = (s.core φ).turn := (congrArg Core.turn h32).trans hturn1
  have hd3 : Detached (s3.core φ) := h32 ▸ hd1
  refine ⟨⟨hd3.eventInv, fun _ => trivial, fun hparent => hreceiver (hturn3.symm.trans hparent)⟩,
    wp_pure.mpr ?_⟩
  refine hq fd _ hfd ?_ hsock
  have h4 := core_run hk (c := .recvFd fd passed.file) trivial s3
  exact (h4.trans h32).trans (core_setIncoming s p bs)

/-! ## The session's side -/

theorem requestCmd_calm {cmd : UInt8} {c : Core X} {toParent toChild : List ChannelByte}
    {Q : Unit → State W → Prop} (hk : KeepsFs k φ) (hd : Detached c)
    (hs : s.core φ = c.talk toParent toChild .session)
    (hq : ∀ s', s'.core φ = c.talk (toParent ++ [⟨cmd, none⟩]) toChild .session → Q () s') :
    wp (sessionRequirement cfg k base φ may start) (requestCmd cfg k cmd) Q s := by
  rw [requestCmd, wp_bind]
  refine privSockWrite_calm hk (hs ▸ hd.talk _ _ _) (by decide) fun s1 h1 => ?_
  rw [hs] at h1
  refine Calm.wp (calm_checkPendingActions hk) ?_ fun _ s2 h2 _ => hq s2 (h2.trans h1)
  rw [h1]
  exact hd.runningTalk _ _

theorem replyResult_calm {res : UInt8} {c : Core X} {toChild : List ChannelByte}
    {Q : UInt8 → State W → Prop} (hk : KeepsFs k φ) (hd : Detached c)
    (hs : s.core φ = c.talk [] (⟨res, none⟩ :: toChild) .session)
    (hq : ∀ s', s'.core φ = c.talk [] toChild .session → Q res s') :
    wp (sessionRequirement cfg k base φ may start) (replyResult cfg k) Q s := by
  rw [replyResult, wp_bind]
  refine privSockGetByte_calm (b := ⟨res, none⟩) (congrArg Core.toChild hs) fun s1 h1 => ?_
  rw [hs] at h1
  rw [wp_bind]
  refine Calm.wp (calm_checkPendingActions hk) ?_ fun _ s2 h2 _ =>
    wp_pure.mpr (hq s2 (h2.trans h1))
  rw [h1]
  exact hd.runningTalk _ _

theorem replyInt_calm {b0 b1 b2 b3 : ChannelByte} {c : Core X} {toChild : List ChannelByte}
    {Q : Int → State W → Prop} (hk : KeepsFs k φ) (hd : Detached c)
    (hs : s.core φ = c.talk [] (b0 :: b1 :: b2 :: b3 :: toChild) .session)
    (hq : ∀ s', s'.core φ = c.talk [] toChild .session →
      Q (bytesInt b0.byte b1.byte b2.byte b3.byte) s') :
    wp (sessionRequirement cfg k base φ may start) (replyInt cfg k) Q s := by
  rw [replyInt, wp_bind]
  refine privSockGetInt_calm (congrArg Core.toChild hs) fun s1 h1 => ?_
  rw [hs] at h1
  rw [wp_bind]
  refine Calm.wp (calm_checkPendingActions hk) ?_ fun _ s2 h2 _ =>
    wp_pure.mpr (hq s2 (h2.trans h1))
  rw [h1]
  exact hd.runningTalk _ _

/-! ## The parent's side -/

/-- What the parent does for a command. -/
def requestHandler (cfg : Tunables) (k : Kernel W) (cmd : UInt8) : M W Unit :=
  if cfg.chownUploads ∧ cmd = privSockChown then cmdProcessChown k
  else if cmd = privSockGetDataSock then cmdProcessGetDataSock cfg k
  else if cmd = privSockPasvCleanup then cmdProcessPasvCleanup k
  else if cmd = privSockPasvActive then cmdProcessPasvActive k
  else if cmd = privSockPasvListen then cmdProcessPasvListen cfg k
  else if cmd = privSockPasvAccept then cmdProcessPasvAccept cfg k
  else die "bad request in process_post_login_req"

/-- The session waits while the parent serves the request. -/
theorem parentTurn_calm {cmd : UInt8} {c : Core X} {rest : List ChannelByte}
    {Q : Unit → State W → Prop} (hk : KeepsFs k φ) (hd : Detached c)
    (hcomplete : CompleteRequest cfg base (⟨cmd, none⟩ :: rest))
    (hs : s.core φ = c.talk (⟨cmd, none⟩ :: rest) [] .session)
    (hq : ∀ s', s'.core φ = c.talk rest [] .parent →
      wp (sessionRequirement cfg k base φ may start) (requestHandler cfg k cmd)
        (fun _ s'' => ∀ s3 : State W, s3.core φ = { s''.core φ with turn := .session } → Q () s3)
        s') :
    wp (sessionRequirement cfg k base φ may start) (parentTurn cfg k) Q s := by
  rw [parentTurn, wp_bind, setTurn, wp_modify, wp_bind, processPostLoginReq, wp_bind, wp_sys]
  generalize hs0 : ({ s with turn := .parent } : State W) = s0
  have h0 : s0.core φ = c.talk (⟨cmd, none⟩ :: rest) [] .parent := by
    calc s0.core φ = { s.core φ with turn := .parent } := by rw [← hs0]; rfl
      _ = _ := by rw [hs]; rfl
  have hd0 : Detached (s0.core φ) := h0 ▸ hd.talk _ _ _
  have hparent : s0.toParent = ⟨cmd, none⟩ :: rest := congrArg Core.toParent h0
  have hchild : s0.toChild = [] := congrArg Core.toChild h0
  have hissued : Issued cfg k base φ start ⟨.waitRequest, s0⟩ := by
    refine ⟨hchild, ?_⟩
    rw [hparent]
    exact hcomplete
  refine ⟨⟨hd0.eventInv, fun _ => trivial, hissued⟩, ?_⟩
  have h1 := (core_run hk (c := .waitRequest) trivial s0).trans h0
  rw [wp_bind]
  refine privSockGetByte_calm (b := ⟨cmd, none⟩) (congrArg Core.toParent h1) fun s2 h2 => ?_
  rw [h1] at h2
  exact (hq s2 h2).mono fun _ s3 h3 => wp_modify.mpr (h3 _ rfl)

/-- A request of one byte, up to the answer. -/
theorem request_calm {cmd : UInt8} {c : Core X} {f : Unit → M W α} {Q : α → State W → Prop}
    (hk : KeepsFs k φ) (hd : Detached c) (hi : Idle c) (hs : s.core φ = c)
    (hplain : cmd ∈ plainRequests)
    (hq : ∀ s', s'.core φ = c.talk [] [] .parent →
      wp (sessionRequirement cfg k base φ may start) (requestHandler cfg k cmd)
        (fun _ s'' => ∀ s3 : State W, s3.core φ = { s''.core φ with turn := .session } →
          wp (sessionRequirement cfg k base φ may start) (f ()) Q s3) s') :
    wp (sessionRequirement cfg k base φ may start)
      (do
        requestCmd cfg k cmd
        let u ← parentTurn cfg k
        f u) Q s := by
  rw [wp_bind]
  refine requestCmd_calm hk hd (hs.trans hi.talk.symm) fun s1 h1 => ?_
  rw [wp_bind]
  exact parentTurn_calm hk hd (.plain cmd hplain) h1 hq

/-- The answer of the parent, in one byte. -/
theorem sendResult_calm {res : UInt8} {c : Core X} {toChild : List ChannelByte}
    {Q : Unit → State W → Prop} (hk : KeepsFs k φ) (hd : Detached c)
    (hs : s.core φ = c.talk [] toChild .parent)
    (hq : ∀ s', s'.core φ = c.talk [] (toChild ++ [⟨res, none⟩]) .parent → Q () s') :
    wp (sessionRequirement cfg k base φ may start) (privSockSendResult k .parent res) Q s := by
  refine privSockWrite_calm hk (hs ▸ hd.talk _ _ _) (by decide) fun s1 h1 => hq s1 ?_
  rw [hs] at h1
  exact h1

theorem sendInt_calm {n : Int} {c : Core X} {toChild : List ChannelByte}
    {Q : Unit → State W → Prop} (hk : KeepsFs k φ) (hd : Detached c)
    (hs : s.core φ = c.talk [] toChild .parent)
    (hq : ∀ s', s'.core φ =
      c.talk [] (toChild ++ (intBytes n).map fun b => ⟨b, none⟩) .parent → Q () s') :
    wp (sessionRequirement cfg k base φ may start) (privSockSendInt k .parent n) Q s := by
  refine privSockWrite_calm hk (hs ▸ hd.talk _ _ _) (by decide) fun s1 h1 => hq s1 ?_
  rw [hs] at h1
  exact h1

/-- The parent passes a descriptor and closes its own. -/
theorem sendFd_calm {fd : Fd} {c : Core X} {toChild : List ChannelByte}
    {Q : Unit → State W → Prop} (hk : KeepsFs k φ) (hd : Detached c)
    (hs : s.core φ = c.talk [] toChild .parent)
    (hq : ∀ s', s'.core φ =
      c.talk [] (toChild ++ [⟨0, some ⟨fd.toNat, s.socks fd⟩⟩]) .parent → Q () s') :
    wp (sessionRequirement cfg k base φ may start)
      (do
        privSockSendFd k .parent fd
        vsfSysutilClose k noPending fd) Q s := by
  rw [wp_bind]
  refine privSockSendFd_calm hk (hs ▸ hd.talk _ _ _) (fun hturn => ?_) fun s1 h1 => ?_
  · rw [hs] at hturn
    have hparent : Proc.parent = .session := hturn
    exact absurd hparent (by decide)
  · rw [hs] at h1
    refine close_calm hk ?_ ?_ fun s2 h2 => hq s2 (h2.trans h1)
    · rw [h1]
      rfl
    · rw [h1]
      exact hd.talk _ _ _

end Vsftpd.Session
