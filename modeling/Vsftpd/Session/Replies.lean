import Vsftpd.Session.Core

/-!
# Replies and signals are calm

Whatever is pending while a reply is written or a command is waited for, the core
of the state stays as it is.
-/

namespace Vsftpd.Session

open Vsftpd.Lib

variable {W X α : Type} {cfg : Tunables} {k : Kernel W} {φ : W → X}

theorem calm_activateNoblock (hk : KeepsFs k φ) (fd : Fd) :
    Calm cfg k φ (vsfSysutilActivateNoblock k fd) :=
  Quiet.bind (calm_sys hk trivial) fun _ => Quiet.ite (Quiet.pure ()) (calm_die _ (by decide))

theorem calm_ftpWriteStrCommon (hk : KeepsFs k φ) {chk : M W Unit} (hchk : Calm cfg k φ chk)
    (status : FtpCode) (sep : UInt8) (text : Bytes) :
    Calm cfg k φ (ftpWriteStrCommon k chk status sep text) :=
  Quiet.bind (calm_sys hk trivial) fun _ => Quiet.bind hchk fun _ =>
    Quiet.ite (Quiet.pure ()) (calm_die _ (by decide))

theorem calm_ftpWriteExit (hk : KeepsFs k φ) {chk : M W Unit} (hchk : Calm cfg k φ chk)
    (status : FtpCode) (text : Bytes) (exitVal : Int) :
    Calm cfg k φ (ftpWriteExit k chk status text exitVal : M W α) :=
  Quiet.bind (calm_activateNoblock hk _) fun _ => Quiet.bind (calm_sys hk trivial) fun _ =>
    Quiet.bind (calm_ftpWriteStrCommon hk hchk _ _ _) fun _ =>
      Quiet.bind (calm_sys hk trivial) fun _ => calm_exit _

theorem calm_setAlarm : Calm cfg k φ (vsfCmdioSetAlarm cfg : M W Unit) :=
  Quiet.whenever (Quiet.modify fun _ => rfl)

theorem calm_getCmdAndArgWith (hk : KeepsFs k φ) {chk : M W Unit} (hchk : Calm cfg k φ chk)
    (setAlarm : Bool) : Calm cfg k φ (getCmdAndArgWith cfg k chk setAlarm) := by
  refine Quiet.bind (Quiet.whenever calm_setAlarm) fun _ =>
    Quiet.bind (calm_sys hk trivial) fun line => Quiet.bind hchk fun _ =>
    Quiet.bind (calm_getSess _) fun sess => ?_
  match line with
  | .tooLong => exact calm_ftpWriteExit hk hchk _ _ _
  | .eof =>
      refine Quiet.ite (calm_ftpWriteExit hk hchk _ _ _) ?_
      exact Quiet.bind (calm_sys hk trivial) fun _ => calm_exit _
  | .line text => exact Quiet.ite (calm_ftpWriteExit hk hchk _ _ _) (Quiet.pure _)

/-! ## Signal handlers -/

theorem calm_startDataAlarm : Calm cfg k φ (startDataAlarm cfg : M W Unit) :=
  Quiet.whenever (Quiet.modify fun _ => rfl)

theorem calm_handleIo : Calm cfg k φ (handleIo : M W Unit) :=
  Quiet.bind Quiet.get fun _ => Quiet.whenever (Quiet.modify fun _ => rfl)

theorem calm_handleAlarmTimeout (hk : KeepsFs k φ) : Calm cfg k φ (handleAlarmTimeout k) :=
  Quiet.bind (Quiet.modify fun _ => rfl) fun _ => Quiet.bind (calm_activateNoblock hk _) fun _ =>
    calm_sys hk trivial

theorem calm_handleSigalrm (hk : KeepsFs k φ) : Calm cfg k φ (handleSigalrm cfg k) := by
  refine Quiet.bind (calm_getSess _) fun sess => Quiet.ite ?_ ?_
  · exact Quiet.bind (Quiet.modify fun _ => rfl) fun _ => Quiet.bind (calm_sys hk trivial) fun _ =>
      Quiet.bind (calm_sys hk trivial) fun _ => calm_activateNoblock hk _
  · exact Quiet.bind (Quiet.modify fun _ => rfl) fun _ => calm_startDataAlarm

theorem calm_handleAlarm (hk : KeepsFs k φ) : Calm cfg k φ (handleAlarm cfg k) := by
  refine Quiet.bind Quiet.get fun s => ?_
  match s.alarmHandler with
  | none => exact Quiet.pure ()
  | some .idle => exact calm_handleAlarmTimeout hk
  | some .data => exact calm_handleSigalrm hk

theorem calm_handleInner (hk : KeepsFs k φ) (pending : Pending) :
    Calm cfg k φ (handleInner cfg k pending) := by
  cases pending with
  | io => exact calm_handleIo
  | sigalrm => exact calm_handleAlarm hk
  | sigurg => exact Quiet.pure ()

theorem calm_checkPendingInner (hk : KeepsFs k φ) : Calm cfg k φ (checkPendingInner cfg k) :=
  Quiet.bind (calm_sys hk trivial) fun _ => Quiet.forEach (calm_handleInner hk) _

theorem calm_handleSigurg (hk : KeepsFs k φ) : Calm cfg k φ (handleSigurg cfg k) := by
  refine Quiet.bind (calm_getSess _) fun sess => Quiet.ite (Quiet.pure ()) ?_
  refine Quiet.bind (calm_getCmdAndArgWith hk (calm_checkPendingInner hk) _) fun cmdArg =>
    Quiet.ite ?_ (calm_ftpWriteStrCommon hk (calm_checkPendingInner hk) _ _ _)
  exact Quiet.bind (Quiet.modify fun _ => rfl) fun _ => calm_sys hk trivial

theorem calm_handlePending (hk : KeepsFs k φ) (pending : Pending) :
    Calm cfg k φ (handlePending cfg k pending) := by
  cases pending with
  | io => exact calm_handleIo
  | sigalrm => exact calm_handleAlarm hk
  | sigurg => exact Quiet.bind Quiet.get fun _ => Quiet.whenever (calm_handleSigurg hk)

theorem calm_checkPendingActions (hk : KeepsFs k φ) : Calm cfg k φ (checkPendingActions cfg k) :=
  Quiet.bind (calm_sys hk trivial) fun _ => Quiet.forEach (calm_handlePending hk) _

/-! ## What the handlers call -/

theorem calm_vsfCmdioWriteStr (hk : KeepsFs k φ) (status : FtpCode) (text : Bytes) :
    Calm cfg k φ (vsfCmdioWriteStr cfg k status text) :=
  calm_ftpWriteStrCommon hk (calm_checkPendingActions hk) _ _ _

theorem calm_vsfCmdioWrite (hk : KeepsFs k φ) (status : FtpCode) (text : String) :
    Calm cfg k φ (vsfCmdioWrite cfg k status text) :=
  calm_vsfCmdioWriteStr hk _ _

theorem calm_vsfCmdioWriteHyphen (hk : KeepsFs k φ) (status : FtpCode) (text : Bytes) :
    Calm cfg k φ (vsfCmdioWriteHyphen cfg k status text) :=
  calm_ftpWriteStrCommon hk (calm_checkPendingActions hk) _ _ _

theorem calm_vsfCmdioWriteRaw (hk : KeepsFs k φ) (text : Bytes) :
    Calm cfg k φ (vsfCmdioWriteRaw cfg k text) :=
  Quiet.bind (calm_sys hk trivial) fun _ => Quiet.bind (calm_checkPendingActions hk) fun _ =>
    Quiet.ite (Quiet.pure ()) (calm_die _ (by decide))

theorem calm_vsfCmdioWriteExit (hk : KeepsFs k φ) (status : FtpCode) (text : String)
    (exitVal : Int) : Calm cfg k φ (vsfCmdioWriteExit cfg k status text exitVal : M W α) :=
  calm_ftpWriteExit hk (calm_checkPendingActions hk) _ _ _

theorem calm_writeRawLines (hk : KeepsFs k φ) (lines : List (Bool × Bytes)) :
    Calm cfg k φ (writeRawLines cfg k lines) :=
  Quiet.forEach (fun _ => Quiet.whenever (calm_vsfCmdioWriteRaw hk _)) _

theorem calm_vsfBannerWrite (hk : KeepsFs k φ) (text : Bytes) (ftpcode : FtpCode) :
    Calm cfg k φ (vsfBannerWrite cfg k text ftpcode) :=
  Quiet.forEach (calm_vsfCmdioWriteHyphen hk ftpcode) _

end Vsftpd.Session
