import Vsftpd.AddrEqual
import Vsftpd.Ptrace.FtpTables

/-!
# The calls of a session under ptrace

The check of a call at whose entry the process is stopped comes to `FtpRequest`, and so a
session gets nothing else from the kernel.
-/

namespace Vsftpd.PtraceSandbox

open Vsftpd.Lib (bind_eq_ok_iff guard_eq_ok_iff ok_bind)
open Vsftpd.Session (VsfSession)
open Vsftpd.Seccomp (PolicyTunables)

/-! ## What the validators accept -/

section
variable {sess : VsfSession} {p : Stopped} {v w : UInt32}

/-- Two arguments are read, and a predicate of them is checked. -/
theorem readTwo_iff (hcall : p.regs.origEax ≠ 0) {i j : Nat} (hi : i ≤ 2) (hj : j ≤ 2)
    {check : UInt32 → UInt32 → Except Int Unit} :
    (do
      let a ← ptraceSandboxGetSocketcallArg p i
      let b ← ptraceSandboxGetSocketcallArg p j
      check a b) = .ok () ↔
        ∃ a b, SocketArg p i a ∧ SocketArg p j b ∧ check a b = .ok () := by
  simp only [bind_eq_ok_iff, getSocketcallArg_eq_ok_iff hcall i hi,
    getSocketcallArg_eq_ok_iff hcall j hj]
  constructor
  · intro h
    obtain ⟨a, ha, b, hb, hcheck⟩ := h
    exact ⟨a, b, ha, hb, hcheck⟩
  · intro h
    obtain ⟨a, b, ha, hb, hcheck⟩ := h
    exact ⟨a, ha, b, hb, hcheck⟩

theorem socketValidator_iff (hcall : p.regs.origEax ≠ 0) :
    socketValidator sess p = .ok () ↔
      SocketArg p 0 (expectedFamily sess) ∧ SocketArg p 1 sockStream := by
  unfold socketValidator
  rw [readTwo_iff hcall (by decide) (by decide)]
  simp only [guard_eq_ok_iff, not_or, not_not, and_true]
  constructor
  · intro h
    obtain ⟨a, b, ha, hb, rfl, rfl⟩ := h
    exact ⟨ha, hb⟩
  · intro h
    exact ⟨_, _, h.1, h.2, rfl, rfl⟩

theorem getsockoptValidator_iff (hcall : p.regs.origEax ≠ 0) :
    getsockoptValidator p = .ok () ↔ SocketArg p 1 solSocket ∧ SocketArg p 2 soError := by
  unfold getsockoptValidator
  rw [readTwo_iff hcall (by decide) (by decide)]
  simp only [guard_eq_ok_iff, not_or, not_not, and_true]
  constructor
  · intro h
    obtain ⟨a, b, ha, hb, rfl, rfl⟩ := h
    exact ⟨ha, hb⟩
  · intro h
    exact ⟨_, _, h.1, h.2, rfl, rfl⟩

theorem setsockoptValidator_iff (hcall : p.regs.origEax ≠ 0) :
    setsockoptValidator p = .ok () ↔
      ∃ level option, (level, option) ∈ settableOptions ∧
        SocketArg p 1 level ∧ SocketArg p 2 option := by
  unfold setsockoptValidator
  rw [readTwo_iff hcall (by decide) (by decide)]
  apply exists_congr
  intro level
  apply exists_congr
  intro option
  rw [← and_assoc, and_comm]
  refine and_congr_left fun _ => ?_
  unfold settableOptions
  simp only [List.mem_cons, Prod.mk.injEq, List.not_mem_nil, or_false]
  by_cases hsocket : level = solSocket
  · subst hsocket
    rw [if_pos rfl, guard_eq_ok_iff]
    simp [solSocket, ipprotoTcp, ipprotoIp]
    tauto
  · rw [if_neg hsocket]
    by_cases htcp : level = ipprotoTcp
    · subst htcp
      rw [if_pos rfl, guard_eq_ok_iff]
      simp [solSocket, ipprotoTcp, ipprotoIp]
    · rw [if_neg htcp]
      by_cases hip : level = ipprotoIp
      · subst hip
        rw [if_pos rfl, guard_eq_ok_iff]
        simp [solSocket, ipprotoTcp, ipprotoIp]
      · rw [if_neg hip]
        simp [hsocket, htcp, hip]

theorem expectedLen_lt (sess : VsfSession) :
    expectedLen sess < 2 ^ 32 ∧ expectedLen sess % 4 = 0 := by
  unfold expectedLen
  split_ifs <;> decide

theorem connectValidator_iff (hcall : p.regs.origEax ≠ 0) :
    connectValidator sess p = .ok () ↔ ∃ ptr, NamesClient sess p ptr := by
  obtain ⟨hlen, hwhole⟩ := expectedLen_lt sess
  unfold connectValidator
  rw [readTwo_iff hcall (by decide) (by decide)]
  constructor
  · intro h
    obtain ⟨ptr, len, hptr, hsize, hcheck⟩ := h
    obtain ⟨heq, hcheck⟩ := guard_eq_ok_iff.mp hcheck
    cases hbuf : getBuf p ptr.toNat (expectedLen sess) with
    | error err =>
        rw [hbuf] at hcheck
        cases hcheck
    | ok buf =>
        rw [hbuf] at hcheck
        obtain ⟨hreadable, rfl⟩ := (getBuf_eq_ok_iff ptr.toNat_lt hlen hwhole).mp hbuf
        obtain ⟨hfamily, hcheck⟩ := guard_eq_ok_iff.mp hcheck
        obtain ⟨hclient, -⟩ := guard_eq_ok_iff.mp hcheck
        have hlen' : len = UInt32.ofNat (expectedLen sess) := by
          rw [← not_not.mp heq, UInt32.ofNat_toNat]
        subst hlen'
        refine ⟨ptr, hptr, hsize, hreadable, not_not.mp hfamily, ?_⟩
        exact (addrEqual_iff _ _).mp ((Bool.not_eq_false _).mp hclient)
  · intro h
    obtain ⟨ptr, hptr, hsize, hreadable, hfamily, hclient⟩ := h
    refine ⟨ptr, _, hptr, hsize, guard_eq_ok_iff.mpr ⟨?_, ?_⟩⟩
    · exact not_not.mpr (UInt32.toNat_ofNat_of_lt' hlen)
    · rw [getBuf_readable ptr.toNat_lt hlen hwhole hreadable]
      refine guard_eq_ok_iff.mpr ⟨not_not.mpr hfamily, guard_eq_ok_iff.mpr ⟨?_, rfl⟩⟩
      rw [(addrEqual_iff _ _).mpr hclient]
      decide

end

/-! ## The checks of a session -/

section
variable {cfg : PolicyTunables} {sess : VsfSession} {pol : Policy} {n : Nat}

theorem validateSocketcall_iff {p : Stopped} (hcall : p.regs.origEax ≠ 0) :
    validateSocketcall pol p = .ok () ↔
      (1 ≤ p.regs.ebx.toNat ∧ p.regs.ebx.toNat < nproto) ∧
      pol.isSocketcallAllowed p.regs.ebx.toNat = true ∧
      ∀ val, pol.socketcallValidator p.regs.ebx.toNat = some val → val p = .ok () := by
  have hebx : ptraceSandboxGetArg p 0 = .ok p.regs.ebx := if_neg hcall
  unfold validateSocketcall
  rw [hebx, ok_bind, guard_eq_ok_iff, guard_eq_ok_iff, Bool.not_eq_false]
  refine and_congr (by omega) (and_congr_right fun _ => ?_)
  cases pol.socketcallValidator p.regs.ebx.toNat with
  | none => simp
  | some val =>
      cases hval : val p with
      | error err => simp [hval]
      | ok u => simp [hval]

theorem getAction_ok_iff {sb : PtSandbox} {p : Stopped} :
    getAction sb p = .ok () ↔
      (p.regs.xcs = 0x73 ∨ p.regs.xcs = 0x23) ∧
        ∃ call : Nat, p.regs.origEax = call ∧ call < maxSyscall ∧ sb.isAllowed call = true ∧
          ∀ v, sb.validator call = some v → runValidator sb p v = .ok () := by
  unfold getAction
  dsimp only
  rw [guard_eq_ok_iff, guard_eq_ok_iff, guard_eq_ok_iff, Bool.not_eq_false]
  refine and_congr (by tauto) ?_
  constructor
  · intro h
    obtain ⟨hrange, hallowed, hvalid⟩ := h
    refine ⟨p.regs.origEax.toNat, by omega, by omega, hallowed, fun v hv => ?_⟩
    rw [hv] at hvalid
    cases hrun : runValidator sb p v with
    | error err =>
        simp only [hrun] at hvalid
        cases hvalid
    | ok u => rfl
  · intro h
    obtain ⟨call, heq, hlt, hallowed, hvalid⟩ := h
    rw [heq]
    refine ⟨by omega, hallowed, ?_⟩
    rw [Int.toNat_natCast]
    cases hv : sb.validator call with
    | none => rfl
    | some v =>
        dsimp only
        rw [hvalid v hv]

theorem ftpSocketcall_iff {pid : Int} {p : Stopped} (hcall : p.regs.origEax ≠ 0) :
    validateSocketcall (ftpSandbox cfg sess pid).toPolicy p = .ok () ↔
      FtpSocketcall cfg sess p p.regs.ebx.toNat := by
  rw [validateSocketcall_iff hcall]
  show _ ∧ (policySetup cfg sess {}).isSocketcallAllowed _ = true ∧
    (∀ val, (policySetup cfg sess {}).socketcallValidator _ = some val → _) ↔ _
  rw [policySetup_isSocketcallAllowed, policySetup_socketcallValidator]
  obtain ⟨hset, hsocket, hbind⟩ := socketcallValidator_common cfg sess
  generalize p.regs.ebx.toNat = call
  constructor
  · intro h
    obtain ⟨-, hallowed, hvalid⟩ := h
    rcases hallowed with ⟨hpasv, hmem⟩ | ⟨hport, hmem⟩ | hmem
    · simp only [List.mem_cons, List.not_mem_nil, or_false] at hmem
      rcases hmem with rfl | rfl
      · exact .listen hpasv
      · exact .accept hpasv
    · obtain ⟨hconnect, hget⟩ := socketcallValidator_port sess hport
      simp only [List.mem_cons, List.not_mem_nil, or_false] at hmem
      rcases hmem with rfl | rfl
      · obtain ⟨ptr, hptr⟩ := (connectValidator_iff hcall).mp (hvalid _ hconnect)
        exact .connect ptr hport hptr
      · obtain ⟨hlevel, hoption⟩ := (getsockoptValidator_iff hcall).mp (hvalid _ hget)
        exact .getsockopt hport hlevel hoption
    · simp only [List.mem_cons, List.not_mem_nil, or_false] at hmem
      rcases hmem with rfl | rfl | rfl | rfl | rfl
      · obtain ⟨hfamily, htype⟩ := (socketValidator_iff hcall).mp (hvalid _ hsocket)
        exact .socket hfamily htype
      · obtain ⟨ptr, hptr⟩ := (connectValidator_iff hcall).mp (hvalid _ hbind)
        exact .bind ptr hptr
      · exact .recv
      · exact .shutdown
      · obtain ⟨level, option, hmem, hlevel, hoption⟩ :=
          (setsockoptValidator_iff hcall).mp (hvalid _ hset)
        exact .setsockopt level option hmem hlevel hoption
  · intro h
    have honly : ∀ {n : Nat} {val : SocketcallValidator},
        ftpSocketcallValidator cfg sess n = some val → val p = .ok () →
          ∀ val', ftpSocketcallValidator cfg sess n = some val' → val' p = .ok () := by
      intro n val hval hok val' hval'
      rw [hval] at hval'
      cases hval'
      exact hok
    have hnone : ∀ n ∈ [sysRecv, sysShutdown, sysListen, sysAccept],
        ∀ val, ftpSocketcallValidator cfg sess n = some val → val p = .ok () := by
      intro n hn val hval
      rw [socketcallValidator_none cfg sess n hn] at hval
      cases hval
    cases h with
    | socket hfamily htype =>
        exact ⟨by decide, .inr (.inr (by decide)),
          honly hsocket ((socketValidator_iff hcall).mpr ⟨hfamily, htype⟩)⟩
    | bind ptr hptr =>
        exact ⟨by decide, .inr (.inr (by decide)),
          honly hbind ((connectValidator_iff hcall).mpr ⟨ptr, hptr⟩)⟩
    | connect ptr hport hptr =>
        exact ⟨by decide, .inr (.inl ⟨hport, by decide⟩),
          honly (socketcallValidator_port sess hport).1
            ((connectValidator_iff hcall).mpr ⟨ptr, hptr⟩)⟩
    | listen hpasv => exact ⟨by decide, .inl ⟨hpasv, by decide⟩, hnone _ (by decide)⟩
    | accept hpasv => exact ⟨by decide, .inl ⟨hpasv, by decide⟩, hnone _ (by decide)⟩
    | recv => exact ⟨by decide, .inr (.inr (by decide)), hnone _ (by decide)⟩
    | shutdown => exact ⟨by decide, .inr (.inr (by decide)), hnone _ (by decide)⟩
    | setsockopt level option hmem hlevel hoption =>
        exact ⟨by decide, .inr (.inr (by decide)),
          honly hset ((setsockoptValidator_iff hcall).mpr ⟨level, option, hmem, hlevel, hoption⟩)⟩
    | getsockopt hport hlevel hoption =>
        exact ⟨by decide, .inr (.inl ⟨hport, by decide⟩),
          honly (socketcallValidator_port sess hport).2
            ((getsockoptValidator_iff hcall).mpr ⟨hlevel, hoption⟩)⟩

theorem mayWrite_iff {setting : Bool} :
    MayWrite cfg sess setting ↔
      cfg.writeEnable = true ∧ (!sess.isAnonymous || setting) = true := by
  unfold MayWrite
  cases sess.isAnonymous <;> simp

theorem policySetup_isAllowed :
    (policySetup cfg sess {}).isAllowed n = true ↔
      cfg.writeEnable = true ∧
        ((sess.isAnonymous && cfg.chownUploads) = true ∧ n ∈ [nrFchmod, nrFchown, nrFchown32] ∨
        (!sess.isAnonymous && cfg.chmodEnable) = true ∧ n ∈ [nrChmod] ∨
        (!sess.isAnonymous || cfg.anonOtherWriteEnable) = true ∧
          (cfg.mdtmWrite = true ∧ n ∈ [nrUtime, nrUtimes] ∨
            n ∈ [nrUnlink, nrRmdir, nrRename, nrFtruncate, nrFtruncate64]) ∨
        (!sess.isAnonymous || cfg.anonMkdirWriteEnable) = true ∧ n ∈ [nrMkdir] ∨
        (!sess.isAnonymous || cfg.anonUploadEnable) = true ∧ n ∈ [nrOpen]) ∨
      n ∈ [nrSocketcall] ∨
      HasTimeout cfg ∧ n ∈ [nrAlarm] ∨
      (cfg.asyncAborEnable = true ∨ HasTimeout cfg) ∧ n ∈ [nrSigaction, nrRtSigaction] ∨
      cfg.textUserdbNames = true ∧ n ∈ [nrMremap] ∨
      n ∈ plainCalls ∨ n ∈ [nrMmap2, nrOpen, nrFcntl, nrFcntl64, nrSocketcall] := by
  unfold policySetup
  rw [setupWrite_isAllowed, setupNetwork_isAllowed, setupBase_isAllowed]
  simp

/-- The validators of the calls that have one. -/
theorem validateOpen_iff {sb : PtSandbox} {p : Stopped} (hcall : p.regs.origEax ≠ 0)
    (writeable : Bool) :
    runValidator sb p (if writeable then .openDefault else .openReadonly) = .ok () ↔
      p.regs.ecx &&& (oAsync ||| oDirect ||| oSync) = 0 ∧
        (p.regs.ecx &&& oAccmode = oRdonly ∨ writeable = true) := by
  have hecx : ptraceSandboxGetArg p 1 = .ok p.regs.ecx := if_neg hcall
  have hdefault : validateOpenDefault p = .ok () ↔
      p.regs.ecx &&& (oAsync ||| oDirect ||| oSync) = 0 := by
    unfold validateOpenDefault
    rw [hecx, ok_bind, guard_eq_ok_iff]
    simp
  cases writeable with
  | true =>
      show validateOpenDefault p = .ok () ↔ _
      rw [hdefault]
      simp
  | false =>
      show validateOpenReadonly p = .ok () ↔ _
      unfold validateOpenReadonly
      rw [bind_eq_ok_iff]
      simp only [hdefault, hecx, ok_bind, guard_eq_ok_iff]
      simp

theorem validateMmap2_iff {p : Stopped} (hcall : p.regs.origEax ≠ 0) :
    validateMmap2 p = .ok () ↔ p.regs.esi &&& mapShared = 0 := by
  have hesi : ptraceSandboxGetArg p 3 = .ok p.regs.esi := if_neg hcall
  unfold validateMmap2
  rw [hesi, ok_bind, guard_eq_ok_iff]
  simp

theorem validateFcntl_iff {p : Stopped} {pid : Int} (hcall : p.regs.origEax ≠ 0) :
    validateFcntl pid p = .ok () ↔
      p.regs.ecx ∈ fcntlCommands ∧
      (p.regs.ecx = fSetfl → p.regs.edx &&& (oAsync ||| oDirect) = 0) ∧
      (p.regs.ecx = fSetown → toInt32 p.regs.edx.toNat = pid) := by
  have hecx : ptraceSandboxGetArg p 1 = .ok p.regs.ecx := if_neg hcall
  have hedx : ptraceSandboxGetArg p 2 = .ok p.regs.edx := if_neg hcall
  unfold validateFcntl
  rw [hecx, ok_bind, hedx, ok_bind, guard_eq_ok_iff, guard_eq_ok_iff, guard_eq_ok_iff]
  simp

theorem FtpCall.range {pid : Int} {p : Stopped} (h : FtpCall cfg sess pid p n) :
    0 < n ∧ n < maxSyscall := by
  have hrange : ∀ {l : List Nat}, l ⊆ (List.range 299).map Nat.succ → n ∈ l →
      0 < n ∧ n < maxSyscall := by
    intro l hl hn
    obtain ⟨k, hk, rfl⟩ := List.mem_map.mp (hl hn)
    have hlt := List.mem_range.mp hk
    exact ⟨Nat.succ_pos k, Nat.succ_lt_succ hlt⟩
  cases h with
  | plain _ hn => exact hrange (by decide) hn
  | fcntl _ hn => exact hrange (by decide) hn
  | sigaction _ hn => exact hrange (by decide) hn
  | change _ hn => exact hrange (by decide) hn
  | utime _ hn => exact hrange (by decide) hn
  | chownUpload _ hn => exact hrange (by decide) hn
  | _ => decide

/-- A call without a validator is permitted when its table entry is set. -/
theorem ftpValidator_none {l : List Nat} (hl : ∀ b, ∀ c ∈ l, ftpValidator b c = none)
    (hn : n ∈ l) {b : Bool} {q : Validator → Prop} (v : Validator)
    (hv : ftpValidator b n = some v) : q v := by
  rw [hl b n hn] at hv
  cases hv

theorem FtpCall.allowed {pid : Int} {p : Stopped} (h : FtpCall cfg sess pid p n) :
    (policySetup cfg sess {}).isAllowed n = true := by
  have hchecked : ∀ {c}, c ∈ [nrMmap2, nrOpen, nrFcntl, nrFcntl64, nrSocketcall] →
      (policySetup cfg sess {}).isAllowed c = true :=
    fun hc => policySetup_isAllowed.mpr (.inr (.inr (.inr (.inr (.inr (.inr hc))))))
  cases h with
  | mmap _ => exact hchecked (by decide)
  | openFile _ _ => exact hchecked (by decide)
  | fcntl _ hn _ _ =>
      have hsub : [nrFcntl, nrFcntl64] ⊆ [nrMmap2, nrOpen, nrFcntl, nrFcntl64, nrSocketcall] := by
        decide
      exact hchecked (hsub hn)
  | socketcall _ => exact hchecked (by decide)
  | plain _ hn => exact policySetup_isAllowed.mpr (.inr (.inr (.inr (.inr (.inr (.inl hn))))))
  | mremap htext =>
      exact policySetup_isAllowed.mpr (.inr (.inr (.inr (.inr (.inl ⟨htext, by decide⟩)))))
  | sigaction _ hn hset =>
      exact policySetup_isAllowed.mpr (.inr (.inr (.inr (.inl ⟨hset, hn⟩))))
  | alarm htimeout => exact policySetup_isAllowed.mpr (.inr (.inr (.inl ⟨htimeout, by decide⟩)))
  | mkdir hwrite =>
      obtain ⟨hwrite, hset⟩ := mayWrite_iff.mp hwrite
      exact policySetup_isAllowed.mpr
        (.inl ⟨hwrite, .inr (.inr (.inr (.inl ⟨hset, by decide⟩)))⟩)
  | change _ hn hwrite =>
      obtain ⟨hwrite, hset⟩ := mayWrite_iff.mp hwrite
      exact policySetup_isAllowed.mpr (.inl ⟨hwrite, .inr (.inr (.inl ⟨hset, .inr hn⟩))⟩)
  | utime _ hn hmdtm hwrite =>
      obtain ⟨hwrite, hset⟩ := mayWrite_iff.mp hwrite
      exact policySetup_isAllowed.mpr (.inl ⟨hwrite, .inr (.inr (.inl ⟨hset, .inl ⟨hmdtm, hn⟩⟩))⟩)
  | chmod hchmod hwrite =>
      obtain ⟨hwrite, hset⟩ := mayWrite_iff.mp hwrite
      rw [Bool.or_false] at hset
      exact policySetup_isAllowed.mpr
        (.inl ⟨hwrite, .inr (.inl ⟨Bool.and_eq_true_iff.mpr ⟨hset, hchmod⟩, by decide⟩)⟩)
  | chownUpload _ hn hchown hanon hwrite =>
      exact policySetup_isAllowed.mpr
        (.inl ⟨hwrite, .inl ⟨Bool.and_eq_true_iff.mpr ⟨hanon, hchown⟩, hn⟩⟩)

/-- The calls whose arguments are not looked at. -/
theorem FtpCall.of_allowed {pid : Int} {p : Stopped}
    (h : (policySetup cfg sess {}).isAllowed n = true) :
    FtpCall cfg sess pid p n ∨ n ∈ [nrMmap2, nrOpen, nrFcntl, nrFcntl64, nrSocketcall] := by
  rcases policySetup_isAllowed.mp h with ⟨hwrite, hset⟩ | hn | ⟨htimeout, hn⟩ | ⟨hset, hn⟩ |
    ⟨htext, hn⟩ | hn | hn
  · rcases hset with ⟨hset, hn⟩ | ⟨hset, hn⟩ | ⟨hset, hother⟩ | ⟨hset, hn⟩ | ⟨hset, hn⟩
    · obtain ⟨hanon, hchown⟩ := Bool.and_eq_true_iff.mp hset
      exact .inl (.chownUpload _ hn hchown hanon hwrite)
    · obtain ⟨hanon, hchmod⟩ := Bool.and_eq_true_iff.mp hset
      rw [List.mem_singleton] at hn
      subst hn
      exact .inl (.chmod hchmod (mayWrite_iff.mpr ⟨hwrite, by rw [hanon]; rfl⟩))
    · have hmay : MayWrite cfg sess cfg.anonOtherWriteEnable := mayWrite_iff.mpr ⟨hwrite, hset⟩
      rcases hother with ⟨hmdtm, hn⟩ | hn
      · exact .inl (.utime _ hn hmdtm hmay)
      · exact .inl (.change _ hn hmay)
    · rw [List.mem_singleton] at hn
      subst hn
      exact .inl (.mkdir (mayWrite_iff.mpr ⟨hwrite, hset⟩))
    · rw [List.mem_singleton] at hn
      subst hn
      exact .inr (by decide)
  · rw [List.mem_singleton] at hn
    subst hn
    exact .inr (by decide)
  · rw [List.mem_singleton] at hn
    subst hn
    exact .inl (.alarm htimeout)
  · exact .inl (.sigaction _ hn hset)
  · rw [List.mem_singleton] at hn
    subst hn
    exact .inl (.mremap htext)
  · exact .inl (.plain _ hn)
  · exact .inr hn

theorem opensForWriting_iff :
    opensForWriting cfg sess.isAnonymous = true ↔ MayWrite cfg sess cfg.anonUploadEnable := by
  rw [mayWrite_iff]
  exact Bool.and_eq_true_iff

theorem getAction_iff {pid : Int} {p : Stopped} :
    getAction (ftpSandbox cfg sess pid) p = .ok () ↔ FtpRequest cfg sess pid p := by
  rw [getAction_ok_iff]
  refine and_congr_right fun _ => exists_congr fun call => and_congr_right fun heq => ?_
  show _ ∧ (policySetup cfg sess {}).isAllowed call = true ∧
    (∀ v, (policySetup cfg sess {}).validator call = some v → _) ↔ _
  rw [policySetup_validator]
  constructor
  · intro h
    obtain ⟨-, hallowed, hvalid⟩ := h
    rcases FtpCall.of_allowed hallowed with hcall | hchecked
    · exact hcall
    · simp only [List.mem_cons, List.not_mem_nil, or_false] at hchecked
      have hcall : p.regs.origEax ≠ 0 := by
        rw [heq]
        rcases hchecked with rfl | rfl | rfl | rfl | rfl <;> decide
      rcases hchecked with rfl | rfl | rfl | rfl | rfl
      · exact .mmap ((validateMmap2_iff hcall).mp (hvalid _ rfl))
      · obtain ⟨hflags, hmode⟩ := (validateOpen_iff hcall _).mp (hvalid _ rfl)
        exact .openFile hflags (hmode.imp_right opensForWriting_iff.mp)
      · obtain ⟨hmem, hfl, hown⟩ := (validateFcntl_iff hcall).mp (hvalid _ rfl)
        exact .fcntl _ (by decide) hmem hfl hown
      · obtain ⟨hmem, hfl, hown⟩ := (validateFcntl_iff hcall).mp (hvalid _ rfl)
        exact .fcntl _ (by decide) hmem hfl hown
      · exact .socketcall ((ftpSocketcall_iff hcall).mp (hvalid _ rfl))
  · intro h
    obtain ⟨hpos, hlt⟩ := h.range
    have hcall : p.regs.origEax ≠ 0 := by omega
    refine ⟨hlt, h.allowed, ?_⟩
    have honly : ∀ {c : Nat} {v : Validator},
        ftpValidator (opensForWriting cfg sess.isAnonymous) c = some v →
        runValidator (ftpSandbox cfg sess pid) p v = .ok () →
        ∀ v', ftpValidator (opensForWriting cfg sess.isAnonymous) c = some v' →
          runValidator (ftpSandbox cfg sess pid) p v' = .ok () := by
      intro c v hv hok v' hv'
      rw [hv] at hv'
      cases hv'
      exact hok
    cases h with
    | mmap hflags => exact honly rfl ((validateMmap2_iff hcall).mpr hflags)
    | openFile hflags hmode =>
        exact honly rfl
          ((validateOpen_iff hcall _).mpr ⟨hflags, hmode.imp_right opensForWriting_iff.mpr⟩)
    | fcntl _ hn hmem hfl hown =>
        have hv : ftpValidator (opensForWriting cfg sess.isAnonymous) call = some .fcntl := by
          simp only [List.mem_cons, List.not_mem_nil, or_false] at hn
          exact if_pos hn
        exact honly hv ((validateFcntl_iff hcall).mpr ⟨hmem, hfl, hown⟩)
    | socketcall hsocket => exact honly rfl ((ftpSocketcall_iff hcall).mpr hsocket)
    | plain _ hn => exact ftpValidator_none (by decide) hn
    | sigaction _ hn _ => exact ftpValidator_none (by decide) hn
    | change _ hn _ => exact ftpValidator_none (by decide) hn
    | utime _ hn _ _ => exact ftpValidator_none (by decide) hn
    | chownUpload _ hn _ _ _ => exact ftpValidator_none (by decide) hn
    | mremap _ => exact ftpValidator_none (l := [nrMremap]) (by decide) (by decide)
    | alarm _ => exact ftpValidator_none (l := [nrAlarm]) (by decide) (by decide)
    | mkdir _ => exact ftpValidator_none (l := [nrMkdir]) (by decide) (by decide)
    | chmod _ _ => exact ftpValidator_none (l := [nrChmod]) (by decide) (by decide)

end

/-! ## Whole runs -/

/-- What becomes of the calls of a session. -/
def OfPolicy (cfg : PolicyTunables) (sess : VsfSession) (pid : Int) (rounds : List Round) :
    KernelEvent → Prop
  | .executed p => FtpRequest cfg sess pid p
  | .executedDying _ => ∃ r ∈ rounds, r.Kills
  | .exitForced p => (∃ r ∈ rounds, r.waitFails = true) ∨ ¬ FtpRequest cfg sess pid p

/-- What the supervisor checks is the policy, and a session gets nothing else from the kernel
while no `SIGKILL` finds it at the entry of a call. -/
theorem ftpSandbox_mediates (cfg : PolicyTunables) (sess : VsfSession) {pid : Int}
    (hpid : pid ≠ -1) (killed : Bool) (rounds : List Round) :
    (∀ p, getAction (ftpSandbox cfg sess pid) p = .ok () ↔ FtpRequest cfg sess pid p) ∧
      ∀ e ∈ (ptraceSandboxRunProcesses (ftpSandbox cfg sess pid) killed rounds).1.trace,
        OfPolicy cfg sess pid rounds e := by
  refine ⟨fun p => getAction_iff, fun e he => ?_⟩
  have hmediated : Mediated (ftpSandbox cfg sess pid) killed rounds
      (ptraceSandboxRunProcesses (ftpSandbox cfg sess pid) killed rounds).1
      (ptraceSandboxRunProcesses (ftpSandbox cfg sess pid) killed rounds).2 := by
    cases killed with
    | true => exact mediated_killed hpid rounds
    | false => exact (Running.start _ rfl).mediated hpid rounds
  cases e with
  | executed p => exact getAction_iff.mp (hmediated.executed p he)
  | executedDying p => exact (hmediated.dying p he).2.1
  | exitForced p => exact (hmediated.forced p he).imp_right fun h => getAction_iff.not.mp h

/-- A client on the same machine. -/
def loopbackSession : VsfSession where
  localAddr := .inet inaddrLoopback 21
  remoteAddr := .inet inaddrLoopback 40000

theorem ftpSandbox_mediates_fork :
    (ptraceSandboxRunProcesses (ftpSandbox {} loopbackSession 77) false forkingProcess).2 =
      some (-1) ∧
    (∀ p, getAction (ftpSandbox {} loopbackSession 77) p = .ok () ↔
      FtpRequest {} loopbackSession 77 p) ∧
      ∀ e ∈ (ptraceSandboxRunProcesses (ftpSandbox {} loopbackSession 77) false
          forkingProcess).1.trace,
        OfPolicy {} loopbackSession 77 forkingProcess e :=
  ⟨rfl, ftpSandbox_mediates {} loopbackSession (by decide) false forkingProcess⟩

end Vsftpd.PtraceSandbox
