import Vsftpd.Session.Guarantees

/-!
# Addresses that can be connected to

PORT and EPRT check the port of the address they store, unless `port_promiscuous` switches
the whole check off.  `vsf_privop_get_ftp_port_sock` checks the port again before it
connects, whatever the settings are, and ends the process where it is reserved.
-/

namespace Vsftpd.Session

open Vsftpd.Lib

variable {W : Type} {cfg : Tunables} {k : Kernel W}

/-- The address passes the check that is made before it is connected to. -/
def FreePort (addr : SockAddr) : Prop :=
  vsfSysutilIsPortReserved (vsfSysutilSockaddrGetPort addr) = false

instance (addr : SockAddr) : Decidable (FreePort addr) := inferInstanceAs (Decidable (_ = _))

/-- Without the check of the commands, the command names no reserved port. -/
def NamesFreePort (cfg : Tunables) (start : State W) : Prop :=
  cfg.portPromiscuous = true → ∀ addr, AsksFor cfg start addr → FreePort addr

/-- The check of the commands covers the check that follows. -/
theorem PassesPortCheck.freePort {remote addr : SockAddr} (h : PassesPortCheck cfg remote addr)
    (hprom : cfg.portPromiscuous = false) : FreePort addr := by
  have hnot : ¬ vsfSysutilIsPortReserved (vsfSysutilSockaddrGetPort addr) = true := by
    intro hreserved
    apply h
    rw [hprom]
    exact ⟨rfl, .inr hreserved⟩
  exact Bool.eq_false_iff.mpr hnot

/-- For exactly the addresses with a reserved port, and with `port_promiscuous`, it does not. -/
theorem freePort_of_check_iff (remote addr : SockAddr) :
    (PassesPortCheck cfg remote addr → FreePort addr) ↔
      ¬ (cfg.portPromiscuous = true ∧ ¬ FreePort addr) := by
  constructor
  · intro himp hbad
    apply hbad.2
    apply himp
    rw [PassesPortCheck, hbad.1]
    exact fun hcheck => absurd hcheck.1 (by decide)
  · intro hgood hpass
    by_contra hreserved
    have hprom : cfg.portPromiscuous = false :=
      Bool.eq_false_iff.mpr fun hprom => hgood ⟨hprom, hreserved⟩
    exact hreserved (hpass.freePort hprom)

theorem NamesFreePort.storesOnly {start : State W} (h : NamesFreePort cfg start) :
    StoresOnly cfg FreePort start := by
  intro addr hasks hpass
  cases hprom : cfg.portPromiscuous with
  | false => exact hpass.freePort hprom
  | true => exact h hprom addr hasks

theorem NamesFreePort.of_targets {start : State W}
    (hport : ∀ addr ∈ portTarget start.session, FreePort addr)
    (heprt : ∀ addr ∈ eprtTarget start.session, FreePort addr) : NamesFreePort cfg start := by
  intro _ addr hasks
  cases hasks with
  | inl h => exact hport addr h.2
  | inr h => exact heprt addr h.2

/-- Where every PORT and EPRT names a free port, or is checked, no run ends with the refusal
of a port, neither in the session nor in the parent. -/
theorem processPostLogin_usable (cfg : Tunables) (k : Kernel W) (sess : VsfSession) (world : W)
    (n : Nat)
    (hfree : ∀ i start, i < n → Begins cfg k (atLogin cfg sess world) i start →
      NamesFreePort cfg start) :
    wp ⟨fun _ => True, fun h => h ≠ .die "Illegal port request"⟩ (processPostLogin cfg k n)
        (fun _ s => ∀ addr, s.session.portSockaddr = some addr → FreePort addr)
        (atLogin cfg sess world) ∧
      ∀ remote addr, (PassesPortCheck cfg remote addr → FreePort addr) ↔
        ¬ (cfg.portPromiscuous = true ∧ ¬ FreePort addr) := by
  refine ⟨?_, freePort_of_check_iff⟩
  have hrun := processPostLogin_wp (keepsFs_unit k)
    (loopInv_atLogin cfg sess world fun _ => ()) n
    fun i start hi hbegins => (hfree i start hi hbegins).storesOnly
  refine (hrun.mono fun _ s hs => hs.settled.stored).weaken (fun _ _ => trivial) ?_
  intro h hanswerable hrefused
  obtain ⟨addr, hstored, hreserved⟩ := hanswerable.2 hrefused
  exact absurd (hstored.symm.trans hreserved) (by decide)

/-! ### Two runs -/

def promiscuous : Tunables where
  portPromiscuous := true

/-- Another host, on a port that everybody may use. -/
def portElsewhere : State Script := scriptLogin promiscuous true ["PORT 10,0,0,1,8,0", "LIST"] []

theorem portElsewhere_namesFreePort (i : Nat) (start : State Script) (hi : i < 2)
    (hbegins : Begins promiscuous scriptKernel portElsewhere i start) :
    NamesFreePort promiscuous start := by
  rw [eq_scriptStart hbegins]
  clear hbegins
  match i, hi with
  | 0, _ => exact .of_targets (by decide +kernel) (by decide +kernel)
  | 1, _ => exact .of_targets (by decide +kernel) (by decide +kernel)

theorem processPostLogin_usable_elsewhere :
    wp ⟨fun _ => True, fun h => h ≠ .die "Illegal port request"⟩
        (processPostLogin promiscuous scriptKernel 2)
        (fun _ s => ∀ addr, s.session.portSockaddr = some addr → FreePort addr) portElsewhere ∧
      ∀ remote addr, (PassesPortCheck promiscuous remote addr → FreePort addr) ↔
        ¬ (promiscuous.portPromiscuous = true ∧ ¬ FreePort addr) :=
  processPostLogin_usable promiscuous scriptKernel (localClient true) _ 2
    fun i start hi hbegins => portElsewhere_namesFreePort i start hi hbegins

/-- The client itself, on the port of its web server. -/
def portReserved : State Script := scriptLogin promiscuous true ["PORT 127,0,0,1,0,80", "LIST"] []

/-- The PORT is answered with success, and the LIST ends the process. -/
theorem portReserved_refused :
    Syscall.send 200 32 (bytes "PORT command successful. Consider using PASV.") ∈
        (processPostLogin promiscuous scriptKernel 1 portReserved).1.map Event.call ∧
      (processPostLogin promiscuous scriptKernel 2 portReserved).2.2 =
        .error (.die "Illegal port request") := by
  exact ⟨by decide +kernel, by decide +kernel⟩

end Vsftpd.Session
