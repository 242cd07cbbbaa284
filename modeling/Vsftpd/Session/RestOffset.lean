import Vsftpd.Filesize
import Vsftpd.Session.Replies

/-!
# Where a transfer is resumed

REST takes over the number that the client sent.
-/

namespace Vsftpd.Session

open Vsftpd.Lib Vsftpd.Filesize

section
variable {W : Type} {cfg : Tunables} {k : Kernel W} {s : State W}

/-- Nothing is asked of the calls on the way. -/
def anyway : Requirement (Event W) Halt := ⟨fun _ => True, fun _ => True⟩

/-- A REST that is answered has set the offset. -/
theorem handleRest_wp :
    wp anyway (handleRest cfg k)
      (fun _ s' => s'.session.restartPos = sizeValue (cString s.session.ftpArgStr)) s := by
  unfold handleRest
  rw [wp_bind, wp_getSess, wp_bind]
  refine wp_orDie (fun size hsize => ?_) fun _ _ => trivial
  have hval : max size 0 = (sizeValue (cString s.session.ftpArgStr) : Int) := by
    by_cases hlen : (cString s.session.ftpArgStr).length ≤ intMax / 8
    · have hread := hsize.symm.trans (vsfSysutilAToFilesizeT_eq hlen)
      rw [Except.ok.inj hread]
      exact max_eq_left (Int.natCast_nonneg _)
    · have hlong := Nat.lt_of_not_le hlen
      cases hsize.symm.trans (vsfSysutilAToFilesizeT_long hlong)
  dsimp only [State.sess_session]
  rw [hval, wp_bind, updateSession, wp_modifySess]
  apply Quiet.wp (calm_vsfCmdioWriteStr (keepsFs_unit k) _ _) (fun _ _ => trivial)
    (fun _ _ => trivial)
  intro _ s' hview
  have hcore : s'.core (fun _ => ()) = _ := congrArg Prod.fst hview
  exact congrArg (fun c => c.steady.restartPos) hcore

/-- A string that may be measured is read as the number it is, if that has at most fifteen
digits, and as 0 if not, with no overflow on the way.  What was printed is read again, and
the offset after a REST is what was read. -/
theorem aToFilesizeT_value :
    (∀ s, aToFilesizeT s =
      if (cString s).length ≤ intMax / 8 then .ok (sizeValue (cString s) : Int)
      else .error (.die "string suspiciously long")) ∧
    (∀ m : Nat, m < 10 ^ 15 → aToFilesizeT (vsfSysutilFilesizeTToStr m) = .ok (m : Int)) ∧
    ∀ (W : Type) (cfg : Tunables) (k : Kernel W) (s : State W),
      wp anyway (handleRest cfg k) (fun _ s' =>
        s'.session.restartPos = sizeValue (cString s.session.ftpArgStr) ∧
          0 ≤ s'.session.restartPos) s := by
  refine ⟨fun s => ?_, fun m hm => aToFilesizeT_print hm, fun W cfg k s => ?_⟩
  · by_cases hlen : (cString s).length ≤ intMax / 8
    · rw [if_pos hlen, aToFilesizeT_eq hlen]
    · rw [if_neg hlen, aToFilesizeT_long (Nat.lt_of_not_le hlen)]
  · apply handleRest_wp.mono
    intro _ s' hpos
    exact ⟨hpos, by rw [hpos]; exact Int.natCast_nonneg _⟩

/-- A string of more than 2^28 digits is not converted at all. -/
theorem aToFilesizeT_dies :
    aToFilesizeT (List.replicate (intMax / 8 + 1) 49) =
      .error (.die "string suspiciously long") := by
  apply aToFilesizeT_long
  rw [cString_digits, List.length_replicate]
  · exact Nat.lt_succ_self _
  · intro c hc
    rw [List.eq_of_mem_replicate hc]
    rfl

end

end Vsftpd.Session
