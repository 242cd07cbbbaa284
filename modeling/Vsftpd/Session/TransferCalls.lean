import Vsftpd.Session.ParentCalls
import Vsftpd.Session.Transfers

/-!
# What happens around a transfer

Getting a data connection, the transfer itself and giving the connection up again leave
names alone, whatever the state, in both process models.
-/

namespace Vsftpd.Session

open Vsftpd.Lib

variable {W X α : Type} {cfg : Tunables} {k : Kernel W} {φ : W → X} {s : State W}

/-- No call changes what names mean, and whose session it is and on which address stays. -/
abbrev LeavesNames (φ : W → X) (m : M W α) : Prop := Confined φ LeavesFs (fun _ => True) m

theorem ParentCall.leavesFs {c : Syscall} (h : ParentCall c) : LeavesFs c := by
  cases c <;> first | exact trivial | exact h

theorem Calm.leavesNames {m : M W α} (h : Calm cfg k φ m) : LeavesNames φ m := by
  intro v s hs
  subst hs
  have hcalm := h (s.calmView φ) s rfl
  refine (hcalm.mono fun _ s' hs' => ?_).weaken (fun e he => he.2.leavesFs) fun _ _ => trivial
  exact congrArg (fun v => (v.1.fs, v.1.steady.isAnonymous, v.1.steady.localAddr)) hs'

theorem Replying.leavesNames {m : M W α} (h : Replying cfg k φ m) : LeavesNames φ m := by
  intro v s hs
  subst hs
  have hreply := h (s.outline φ) s rfl
  refine (hreply.mono fun _ s' hs' => ?_).weaken (fun e he => he.2.leavesFs) fun _ _ => trivial
  exact congrArg (fun v => (v.fs, v.steady.isAnonymous, v.steady.localAddr)) hs'

theorem leavesNames_halt {h : Halt} : LeavesNames φ (Prog.halt h : M W α) := Quiet.halt trivial

/-- An update of the session's data that does not make it another's. -/
theorem leavesNames_update {f : VsfSession → VsfSession}
    (hf : ∀ sess, ((f sess).isAnonymous, (f sess).localAddr) =
      (sess.isAnonymous, sess.localAddr)) :
    LeavesNames φ (updateSession f : M W Unit) :=
  Quiet.modify fun s => congrArg (Prod.mk (φ s.world)) (hf s.session)

section
variable (hk : KeepsFs k φ)
include hk

theorem parentOps_leavesNames : ParentOps k φ LeavesFs fun _ => True where
  call := fun _ hc => hc.leavesFs
  keeps := fun c hc => hk c hc.leavesFs
  die := fun _ _ => trivial

theorem leavesNames_check : LeavesNames φ (checkPendingActions cfg k) :=
  (calm_checkPendingActions hk).leavesNames

theorem leavesNames_requestCmd (cmd : UInt8) : LeavesNames φ (requestCmd cfg k cmd) :=
  Quiet.bind (confined_privSockWrite (parentOps_leavesNames hk) (by decide)) fun _ =>
    leavesNames_check hk

theorem leavesNames_parentTurn : LeavesNames φ (parentTurn cfg k) := by
  have hops := parentOps_leavesNames hk
  refine Quiet.bind (Quiet.modify fun _ => rfl) fun _ => Quiet.bind ?_ fun _ =>
    Quiet.modify fun _ => rfl
  refine Quiet.bind (hops.sys trivial) fun _ =>
    Quiet.bind (confined_getByte hops (by decide)) fun cmd => ?_
  exact confined_requestHandler hops fun _ => ⟨trivial, trivial⟩

theorem leavesNames_replyResult : LeavesNames φ (replyResult cfg k) :=
  Quiet.bind (confined_getByte (parentOps_leavesNames hk) (by decide)) fun _ =>
    Quiet.bind (leavesNames_check hk) fun _ => Quiet.pure _

theorem leavesNames_replyInt : LeavesNames φ (replyInt cfg k) :=
  Quiet.bind (confined_getInt (parentOps_leavesNames hk)) fun _ =>
    Quiet.bind (leavesNames_check hk) fun _ => Quiet.pure _

/-- A request of one byte, and what is done with its answer. -/
theorem leavesNames_request {cmd : UInt8} {f : Unit → M W α} (hf : ∀ u, LeavesNames φ (f u)) :
    LeavesNames φ (do
      requestCmd cfg k cmd
      let u ← parentTurn cfg k
      f u) :=
  Quiet.bind (leavesNames_requestCmd hk cmd) fun _ => Quiet.bind (leavesNames_parentTurn hk) hf

theorem leavesNames_pasvCleanup : LeavesNames φ (pasvCleanup cfg k) := by
  have hops := parentOps_leavesNames hk
  refine Quiet.ite (confined_pasvCleanup hops (leavesNames_check hk)) ?_
  exact leavesNames_request hk fun _ => Quiet.bind (leavesNames_replyResult hk) fun _ =>
    Quiet.ite leavesNames_halt (Quiet.pure ())

theorem leavesNames_listenPasv : LeavesNames φ (listenPasv cfg k) := by
  refine Quiet.ite (confined_pasvListen (parentOps_leavesNames hk) (leavesNames_check hk)) ?_
  exact leavesNames_request hk fun _ => Quiet.bind (leavesNames_replyInt hk) fun _ => Quiet.pure _

end

end Vsftpd.Session
