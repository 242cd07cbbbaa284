import Vsftpd.Session.TransferCalls
import Vsftpd.Session.WriteGating

/-!
# What is removed after a failed upload

With `delete_failed_uploads` the file of an upload that fails is removed, and whether the
upload has created it is not looked at: `created` is set after every open.
-/

namespace Vsftpd.Session

open Vsftpd.Lib

variable {W X α : Type} {cfg : Tunables} {k : Kernel W} {φ : W → X} {start s : State W}

/-! ## An upload in two parts -/

section
variable (cfg : Tunables) (k : Kernel W)

end

section
variable (hk : KeepsFs k φ)
include hk

end

/-- No file is removed. -/
def removesNothing : Requirement (Event W) Halt :=
  ⟨fun e => ∀ path, e.call ≠ .unlink path, fun _ => True⟩

theorem LeavesNames.wp {m : M W α} {Q : α → State W → Prop} (h : LeavesNames φ m)
    (hq : ∀ a s', s'.known φ = s.known φ → Q a s') : wp removesNothing m Q s := by
  refine Quiet.wp h (fun e he path hcall => ?_) (fun _ _ => trivial) hq
  rw [hcall] at he
  exact he

end Vsftpd.Session
