import Mathlib.Data.List.Count
import Mathlib.Data.List.Perm.Basic
import Mathlib.Data.List.Perm.Subperm
import Vsftpd.Standalone.Listener

/-!
# The listener's accounting over whole runs

The per-address table is followed as a table of counts of a list of addresses:
those of the unreaped children, and, between a failed fork and its clean-up,
the one that was counted for nothing.  A child is in the pid table from the end
of the close on; the one run the accounting does not survive is the handler
reaping it before that.
-/

namespace Vsftpd.Standalone

open Vsftpd.Lib

/-! ## The per-address table -/

/-- The table holds the counts of the addresses `l`. -/
structure Counts (h : Hash RawAddr Nat) (l : List RawAddr) : Prop where
  wellFormed : h.WellFormed
  get : ∀ a, h.get a = countEntry (l.count a)

theorem Counts.perm {h : Hash RawAddr Nat} {l l' : List RawAddr} (hc : Counts h l)
    (hp : l.Perm l') : Counts h l' :=
  ⟨hc.wellFormed, fun a => by rw [hc.get a, hp.count_eq]⟩

theorem countEntry_succ (n : Nat) : countEntry (n + 1) = some (n + 1) := rfl

theorem handleIpCount_ok {h : Hash RawAddr Nat} {l : List RawAddr} (hc : Counts h l)
    (addr : RawAddr) :
    ∃ h', handleIpCount h addr = .ok (l.count addr + 1, h') ∧ Counts h' (addr :: l) := by
  have hget := hc.get addr
  have hcons : ∀ a, (addr :: l).count a = l.count a + if a = addr then 1 else 0 := by
    intro a
    rw [List.count_cons]
    by_cases ha : a = addr
    · simp [ha]
    · simp [ha, Ne.symm ha]
  unfold handleIpCount
  rw [hashLookupEntry_ok hc.wellFormed, hget, orBug_ok, ok_bind]
  by_cases hzero : l.count addr = 0
  · rw [hzero] at hget ⊢
    obtain ⟨h', hadd, hwf, hget'⟩ := hashAddEntry_ok hc.wellFormed 1 hget
    refine ⟨h', ?_, hwf, fun a => ?_⟩
    · rw [countEntry, if_pos rfl]
      simp only [hadd, orBug_ok, ok_bind]
      rfl
    rw [hget' a, hcons a, hc.get a]
    by_cases ha : a = addr
    · rw [if_pos ha, if_pos ha, ha, hzero]
      rfl
    · rw [if_neg ha, if_neg ha, Nat.add_zero]
  · obtain ⟨n, hn⟩ := Nat.exists_eq_succ_of_ne_zero hzero
    rw [hn] at hget ⊢
    have hsome : (h.get addr).isSome := by
      rw [hget]
      rfl
    obtain ⟨h', hwrite, hwf, hget'⟩ := hashWriteValue_ok hc.wellFormed (n + 1 + 1) hsome
    refine ⟨h', ?_, hwf, fun a => ?_⟩
    · rw [countEntry_succ]
      simp only [hwrite, orBug_ok, ok_bind]
      rfl
    rw [hget' a, hcons a, hc.get a]
    by_cases ha : a = addr
    · rw [if_pos ha, if_pos ha, ha, hn]
      rfl
    · rw [if_neg ha, if_neg ha, Nat.add_zero]

/-- Dropping a counted address finds it, and forgets one of its occurrences. -/
theorem dropIpCount_ok {h : Hash RawAddr Nat} {l : List RawAddr} {addr : RawAddr}
    (hc : Counts h (addr :: l)) :
    ∃ h', dropIpCount h (some addr) = .ok h' ∧ Counts h' l := by
  have hself : (addr :: l).count addr = l.count addr + 1 := List.count_cons_self
  have hother : ∀ a ≠ addr, (addr :: l).count a = l.count a :=
    fun a ha => List.count_cons_of_ne ha.symm
  have hget := hc.get addr
  rw [hself, countEntry_succ] at hget
  have hsome : (h.get addr).isSome := by
    rw [hget]
    rfl
  obtain ⟨h1, hwrite, hwf1, hget1⟩ := hashWriteValue_ok hc.wellFormed (l.count addr) hsome
  rw [dropIpCount, hashLookupEntry_ok hc.wellFormed, hget]
  simp only [orBug_ok, ok_bind, hwrite]
  by_cases hzero : l.count addr = 0
  · have hget1self : h1.get addr = some (l.count addr) := by
      rw [hget1 addr, if_pos rfl]
    obtain ⟨h2, hfree, hwf2, hget2⟩ := hashFreeEntry_ok hwf1 hget1self
    refine ⟨h2, by rw [if_pos hzero, hfree, orBug_ok], hwf2, fun a => ?_⟩
    rw [hget2 a, hget1 a, hc.get a]
    by_cases ha : a = addr
    · rw [if_pos ha, ha, hzero]
      rfl
    · rw [if_neg ha, if_neg ha, hother a ha]
  · refine ⟨h1, by rw [if_neg hzero]; rfl, hwf1, fun a => ?_⟩
    rw [hget1 a, hc.get a]
    by_cases ha : a = addr
    · rw [if_pos ha, ha, countEntry, if_neg hzero]
    · rw [if_neg ha, hother a ha]

/-! ## The invariant -/

/-- The address counted for a fork that failed, until it is dropped again. -/
def Pc.counted : Pc → List RawAddr
  | .closing addr none => [addr]
  | _ => []

/-- The child that is not yet in the pid table. -/
def Pc.unrecorded : Pc → Option Pid
  | .closing _ newChild => newChild
  | _ => none

structure Inv (maxClients maxPerIp : Nat) (s : State) : Prop where
  counts : Counts s.ipCountHash (s.pc.counted ++ s.addrs)
  total : s.sChildren = s.pc.counted.length + s.children.length
  pidWellFormed : s.pidIpHash.WellFormed
  pidsNodup : (s.children.map Child.pid).Nodup
  recorded : ∀ p a, s.pidIpHash.get p = some a ↔
    s.pc.unrecorded ≠ some p ∧ ∃ c ∈ s.children, c.pid = p ∧ c.addr = a
  pending : ∀ a p, s.pc = .closing a (some p) → ∃ c ∈ s.children, c.pid = p ∧ c.addr = a
  limits : LimitsKept maxClients maxPerIp s.children

variable {maxClients maxPerIp : Nat} {s : State}

theorem inv_init : Inv maxClients maxPerIp .init where
  counts := ⟨hashAlloc_wellFormed fun key => Nat.mod_lt _ (by decide), fun _ => rfl⟩
  total := rfl
  pidWellFormed := hashAlloc_wellFormed fun key => Nat.mod_lt _ (by decide)
  pidsNodup := List.nodup_nil
  recorded := by
    intro p a
    simp [State.init]
  pending := by
    intro a p h
    cases h
  limits := by
    refine ⟨by simp [State.init], fun _ => ?_, fun _ a => ?_⟩
    · simp [admitted, State.init]
    · simp [admitted, State.init]

/-- At `accept` the invariant is the accounting the statement asks for. -/
theorem Inv.countsMatch (h : Inv maxClients maxPerIp s) (hpc : s.pc = .accept) :
    CountsMatch s := by
  have hcounted : s.pc.counted = [] := by rw [hpc]; rfl
  have htotal := h.total
  have hget := h.counts.get
  rw [hcounted] at htotal hget
  exact ⟨by simpa using htotal, hget⟩

/-! ## Limits -/

/-- Limits survive a loss of children. -/
theorem LimitsKept.sublist {cs cs' : List Child} (h : LimitsKept maxClients maxPerIp cs)
    (hsub : List.Sublist cs' cs) : LimitsKept maxClients maxPerIp cs' := by
  have hadm : List.Sublist (admitted maxClients maxPerIp cs')
      (admitted maxClients maxPerIp cs) := hsub.filter _
  refine ⟨fun c hc => h.notUnderstated c (hsub.subset hc), fun hmax => ?_, fun hmax a => ?_⟩
  · exact Nat.le_trans hadm.length_le (h.clients hmax)
  · exact Nat.le_trans ((hadm.map Child.addr).count_le a) (h.perIp hmax a)

/-- A child that is told the true counts does not break a limit: either the
counts are within it, or the child is turned away. -/
theorem LimitsKept.cons {cs : List Child} {child : Child}
    (h : LimitsKept maxClients maxPerIp cs)
    (hclients : child.launch.numChildren = cs.length + 1)
    (hthisIp : child.launch.numThisIp = (cs.map Child.addr).count child.addr + 1)
    (hlive : child.liveAtFork ≤ child.launch.numChildren)
    (hliveIp : child.liveThisIpAtFork ≤ child.launch.numThisIp) :
    LimitsKept maxClients maxPerIp (child :: cs) := by
  have hle : (admitted maxClients maxPerIp cs).length ≤ cs.length := List.length_filter_le _ _
  have hcount : ∀ a, ((admitted maxClients maxPerIp cs).map Child.addr).count a ≤
      (cs.map Child.addr).count a :=
    fun a => (List.filter_sublist.map Child.addr).count_le a
  have hnotUnder : ∀ c ∈ child :: cs,
      c.liveAtFork ≤ c.launch.numChildren ∧ c.liveThisIpAtFork ≤ c.launch.numThisIp := by
    intro c hc
    rcases List.mem_cons.mp hc with rfl | hc
    · exact ⟨hlive, hliveIp⟩
    · exact h.notUnderstated c hc
  by_cases hadm : Admitted maxClients maxPerIp child.launch
  · have hcons : admitted maxClients maxPerIp (child :: cs) =
        child :: admitted maxClients maxPerIp cs := by
      simp [admitted, hadm]
    refine ⟨hnotUnder, fun hmax => ?_, fun hmax a => ?_⟩
    · have hin := hadm.1 hmax
      rw [hcons, List.length_cons]
      omega
    · have hin := hadm.2 hmax
      have hcount' := hcount child.addr
      have hold := h.perIp hmax a
      rw [hcons, List.map_cons, List.count_cons]
      by_cases ha : child.addr = a
      · subst ha
        rw [beq_self_eq_true, if_pos rfl]
        omega
      · simpa [ha] using hold
  · have hcons : admitted maxClients maxPerIp (child :: cs) = admitted maxClients maxPerIp cs := by
      simp [admitted, hadm]
    exact ⟨hnotUnder, fun hmax => hcons ▸ h.clients hmax, fun hmax a => hcons ▸ h.perIp hmax a⟩

/-! ## The steps of the kernel -/

section MarkExited

variable (pid : Pid) (c : Child)

@[simp] theorem markExited_pid : (markExited pid c).pid = c.pid := by
  unfold markExited; split <;> rfl

@[simp] theorem markExited_addr : (markExited pid c).addr = c.addr := by
  unfold markExited; split <;> rfl

@[simp] theorem markExited_launch : (markExited pid c).launch = c.launch := by
  unfold markExited; split <;> rfl

@[simp] theorem markExited_liveAtFork : (markExited pid c).liveAtFork = c.liveAtFork := by
  unfold markExited; split <;> rfl

@[simp] theorem markExited_liveThisIpAtFork :
    (markExited pid c).liveThisIpAtFork = c.liveThisIpAtFork := by
  unfold markExited; split <;> rfl

end MarkExited

theorem LimitsKept.markExited {cs : List Child} (h : LimitsKept maxClients maxPerIp cs)
    (pid : Pid) : LimitsKept maxClients maxPerIp (cs.map (Standalone.markExited pid)) := by
  have hadm : admitted maxClients maxPerIp (cs.map (Standalone.markExited pid)) =
      (admitted maxClients maxPerIp cs).map (Standalone.markExited pid) := by
    simp [admitted, List.filter_map, Function.comp_def]
  refine ⟨?_, fun hmax => ?_, fun hmax a => ?_⟩
  · intro c hc
    obtain ⟨d, hd, rfl⟩ := List.mem_map.mp hc
    simpa using h.notUnderstated d hd
  · rw [hadm, List.length_map]
    exact h.clients hmax
  · rw [hadm, List.map_map]
    simpa [Function.comp_def] using h.perIp hmax a

/-- A child's exit changes neither its pid nor its address nor what it was told. -/
theorem Inv.childExits (h : Inv maxClients maxPerIp s) (pid : Pid) :
    Inv maxClients maxPerIp { s with children := s.children.map (Standalone.markExited pid) } := by
  have haddrs : (s.children.map (Standalone.markExited pid)).map Child.addr = s.addrs := by
    simp [State.addrs, Function.comp_def]
  have hpids : (s.children.map (Standalone.markExited pid)).map Child.pid =
      s.children.map Child.pid := by
    simp [Function.comp_def]
  have hex : ∀ p a, (∃ c ∈ s.children.map (Standalone.markExited pid), c.pid = p ∧ c.addr = a) ↔
      ∃ c ∈ s.children, c.pid = p ∧ c.addr = a := by
    intro p a
    simp
  exact
    { counts := by simpa only [State.addrs, haddrs] using h.counts
      total := by simpa using h.total
      pidWellFormed := h.pidWellFormed
      pidsNodup := by simpa only [hpids] using h.pidsNodup
      recorded := by simpa only [hex] using h.recorded
      pending := by simpa only [hex] using h.pending
      limits := h.limits.markExited pid }

/-! ## The handler -/

theorem perm_cons_filter {cs : List Child} {c : Child} (hc : c ∈ cs)
    (hnodup : (cs.map Child.pid).Nodup) :
    cs.Perm (c :: cs.filter fun d => d.pid ≠ c.pid) := by
  induction cs with
  | nil => simp at hc
  | cons d cs ih =>
      rw [List.map_cons, List.nodup_cons] at hnodup
      rcases List.mem_cons.mp hc with rfl | hmem
      · have hall : cs.filter (fun d => d.pid ≠ c.pid) = cs := by
          rw [List.filter_eq_self]
          intro e he
          have hne : e.pid ≠ c.pid := by
            intro heq
            exact hnodup.1 (heq ▸ List.mem_map_of_mem he)
          simpa using hne
        rw [List.filter_cons_of_neg (by simp), hall]
      · have hne : d.pid ≠ c.pid := by
          intro heq
          exact hnodup.1 (heq ▸ List.mem_map_of_mem hmem)
        rw [List.filter_cons_of_pos (by simpa using hne)]
        exact ((ih hmem hnodup.2).cons d).trans (List.Perm.swap c d _)

/-- Reaping a child whose table entry exists succeeds and keeps the invariant. -/
theorem Inv.reapOne (h : Inv maxClients maxPerIp s) {c : Child} (hc : c ∈ s.children)
    (hsafe : s.pc.unrecorded ≠ some c.pid) :
    ∃ s', Standalone.reapOne s c.pid = .ok s' ∧ Inv maxClients maxPerIp s' ∧ s'.pc = s.pc := by
  have hlookup : s.pidIpHash.get c.pid = some c.addr :=
    (h.recorded c.pid c.addr).mpr ⟨hsafe, c, hc, rfl, rfl⟩
  have hperm := perm_cons_filter hc h.pidsNodup
  have hcounts : Counts s.ipCountHash (c.addr ::
      (s.pc.counted ++ (s.children.filter fun d => d.pid ≠ c.pid).map Child.addr)) := by
    apply h.counts.perm
    have haddrs : s.addrs.Perm
        (c.addr :: (s.children.filter fun d => d.pid ≠ c.pid).map Child.addr) :=
      hperm.map Child.addr
    exact (haddrs.append_left s.pc.counted).trans List.perm_middle
  obtain ⟨h1, hdrop, hcounts'⟩ := dropIpCount_ok hcounts
  obtain ⟨h2, hfree, hwf2, hget2⟩ := hashFreeEntry_ok h.pidWellFormed hlookup
  have hrun : Standalone.reapOne s c.pid = .ok { s with
      sChildren := s.sChildren - 1
      ipCountHash := h1
      pidIpHash := h2
      children := s.children.filter fun d => d.pid ≠ c.pid } := by
    rw [Standalone.reapOne, hashLookupEntry_ok h.pidWellFormed, hlookup, orBug_ok, ok_bind, hdrop,
      ok_bind, hfree, orBug_ok, ok_bind]
    rfl
  have hlen : s.children.length =
      (s.children.filter fun d => d.pid ≠ c.pid).length + 1 := hperm.length_eq
  refine ⟨_, hrun, ?_, rfl⟩
  exact
    { counts := hcounts'
      total := by
        have htotal := h.total
        dsimp only
        omega
      pidWellFormed := hwf2
      pidsNodup := h.pidsNodup.sublist (List.filter_sublist.map Child.pid)
      recorded := by
        intro p a
        rw [hget2 p]
        by_cases hp : p = c.pid
        · rw [if_pos hp]
          constructor
          · intro hnone
            cases hnone
          · rintro ⟨-, d, hd, hdp, -⟩
            have hne := (List.mem_filter.mp hd).2
            simp [hdp, hp] at hne
        · rw [if_neg hp, h.recorded p a]
          constructor
          · rintro ⟨hun, d, hd, rfl, rfl⟩
            exact ⟨hun, d, List.mem_filter.mpr ⟨hd, by simpa using hp⟩, rfl, rfl⟩
          · rintro ⟨hun, d, hd, rfl, rfl⟩
            exact ⟨hun, d, (List.mem_filter.mp hd).1, rfl, rfl⟩
      pending := by
        intro a p hpc
        obtain ⟨d, hd, rfl, rfl⟩ := h.pending a p hpc
        have hne : d.pid ≠ c.pid := by
          intro heq
          apply hsafe
          rw [hpc, ← heq]
          rfl
        exact ⟨d, List.mem_filter.mpr ⟨hd, by simpa using hne⟩, rfl, rfl⟩
      limits := h.limits.sublist List.filter_sublist }

/-! ## The main loop -/

/-- Moves of the program counter between points where nothing is counted ahead. -/
theorem Inv.setPc (h : Inv maxClients maxPerIp s) {pc : Pc} {inHandler : Bool}
    (hold : s.pc.counted = [] ∧ s.pc.unrecorded = none)
    (hnew : pc.counted = [] ∧ pc.unrecorded = none) :
    Inv maxClients maxPerIp { s with pc := pc, inHandler := inHandler } where
  counts := by
    have hcounts := h.counts
    rw [hold.1] at hcounts
    show Counts s.ipCountHash (pc.counted ++ s.addrs)
    rwa [hnew.1]
  total := by
    have := h.total
    rw [hold.1] at this
    simpa only [hnew.1] using this
  pidWellFormed := h.pidWellFormed
  pidsNodup := h.pidsNodup
  recorded := by
    have := h.recorded
    rw [hold.2] at this
    simpa only [hnew.2] using this
  pending := by
    intro a p hpc
    dsimp only at hpc
    rw [hpc] at hnew
    cases hnew.2
  limits := h.limits

theorem Inv.setHandler (h : Inv maxClients maxPerIp s) (inHandler : Bool) :
    Inv maxClients maxPerIp { s with inHandler := inHandler } :=
  ⟨h.counts, h.total, h.pidWellFormed, h.pidsNodup, h.recorded, h.pending, h.limits⟩

/-- From `accept` to the fork: the new child is told the true counts. -/
theorem Inv.launchChild (h : Inv maxClients maxPerIp s) {addr : RawAddr}
    (hpc : s.pc = .accepted (some addr)) {newChild : Option Pid}
    (hfork : ∀ pid ∈ newChild, ∀ c ∈ s.children, c.pid ≠ pid) :
    ∃ s', Standalone.launchChild s addr newChild = .ok s' ∧ Inv maxClients maxPerIp s' := by
  have hcounts : Counts s.ipCountHash s.addrs := by
    have := h.counts
    rwa [hpc] at this
  have htotal : s.sChildren = s.children.length := by
    have := h.total
    rw [hpc] at this
    simpa [Pc.counted] using this
  have hrecorded : ∀ p a, s.pidIpHash.get p = some a ↔
      ∃ c ∈ s.children, c.pid = p ∧ c.addr = a := by
    intro p a
    have := h.recorded p a
    rw [hpc] at this
    simpa [Pc.unrecorded] using this
  obtain ⟨h1, hrun, hcounts1⟩ := handleIpCount_ok hcounts addr
  rw [Standalone.launchChild, hrun, ok_bind]
  dsimp only
  cases newChild with
  | none =>
      refine ⟨_, rfl, ?_⟩
      exact
        { counts := hcounts1
          total := by
            dsimp only [Pc.counted, List.length_singleton]
            omega
          pidWellFormed := h.pidWellFormed
          pidsNodup := h.pidsNodup
          recorded := by simpa [Pc.unrecorded] using hrecorded
          pending := by
            intro a p hclosing
            cases hclosing
          limits := h.limits }
  | some pid =>
      have hfresh : ∀ c ∈ s.children, c.pid ≠ pid := hfork pid rfl
      refine ⟨_, rfl, ?_⟩
      exact
        { counts := hcounts1
          total := by
            dsimp only [Pc.counted, List.length_nil, List.length_cons]
            omega
          pidWellFormed := h.pidWellFormed
          pidsNodup := by
            rw [List.map_cons, List.nodup_cons]
            refine ⟨fun hmem => ?_, h.pidsNodup⟩
            obtain ⟨c, hc, hcp⟩ := List.mem_map.mp hmem
            exact hfresh c hc hcp
          recorded := by
            intro p a
            dsimp only [Pc.unrecorded]
            rw [hrecorded p a]
            constructor
            · rintro ⟨c, hc, rfl, rfl⟩
              refine ⟨fun heq => ?_, c, List.mem_cons_of_mem _ hc, rfl, rfl⟩
              cases heq
              exact hfresh c hc rfl
            · rintro ⟨hne, c, hc, rfl, rfl⟩
              rcases List.mem_cons.mp hc with rfl | hc
              · exact absurd rfl hne
              · exact ⟨c, hc, rfl, rfl⟩
          pending := by
            intro a p hclosing
            cases hclosing
            exact ⟨_, List.mem_cons_self, rfl, rfl⟩
          limits := h.limits.cons (by dsimp only; omega) rfl (by dsimp only; omega)
            (Nat.le_refl _) }

/-- After the close the new child is recorded, or the failed fork undone. -/
theorem Inv.afterClose (h : Inv maxClients maxPerIp s) {addr : RawAddr} {newChild : Option Pid}
    (hpc : s.pc = .closing addr newChild) :
    ∃ s', Standalone.afterClose s addr newChild = .ok s' ∧ Inv maxClients maxPerIp s' := by
  cases newChild with
  | none =>
      have hcounts : Counts s.ipCountHash (addr :: s.addrs) := by
        have := h.counts
        rwa [hpc] at this
      have htotal : s.sChildren = s.children.length + 1 := by
        have := h.total
        rw [hpc] at this
        simpa [Pc.counted, Nat.add_comm] using this
      obtain ⟨h1, hdrop, hcounts1⟩ := dropIpCount_ok hcounts
      rw [Standalone.afterClose, hdrop, ok_bind]
      refine ⟨_, rfl, ?_⟩
      exact
        { counts := hcounts1
          total := by
            dsimp only [Pc.counted, List.length_nil]
            omega
          pidWellFormed := h.pidWellFormed
          pidsNodup := h.pidsNodup
          recorded := by
            have := h.recorded
            rw [hpc] at this
            exact this
          pending := by
            intro a p hclosing
            cases hclosing
          limits := h.limits }
  | some pid =>
      obtain ⟨c, hc, hcp, hca⟩ := h.pending addr pid hpc
      have hunique : ∀ d ∈ s.children, d.pid = pid → d = c := by
        intro d hd hdp
        exact List.inj_on_of_nodup_map h.pidsNodup hd hc (by rw [hdp, hcp])
      have hnone : s.pidIpHash.get pid = none := by
        rw [Option.eq_none_iff_forall_ne_some]
        intro a hget
        have := ((h.recorded pid a).mp hget).1
        rw [hpc] at this
        exact this rfl
      obtain ⟨h1, hadd, hwf1, hget1⟩ := hashAddEntry_ok h.pidWellFormed addr hnone
      rw [Standalone.afterClose, hadd, orBug_ok, ok_bind]
      refine ⟨_, rfl, ?_⟩
      exact
        { counts := by
            have := h.counts
            rwa [hpc] at this
          total := by
            have := h.total
            rwa [hpc] at this
          pidWellFormed := hwf1
          pidsNodup := h.pidsNodup
          recorded := by
            intro p a
            dsimp only [Pc.unrecorded]
            rw [hget1 p]
            by_cases hp : p = pid
            · subst hp
              rw [if_pos rfl]
              constructor
              · intro heq
                cases heq
                exact ⟨by simp, c, hc, hcp, hca⟩
              · rintro ⟨-, d, hd, hdp, rfl⟩
                rw [hunique d hd hdp, hca]
            · rw [if_neg hp, h.recorded p a, hpc]
              have hne : (Pc.closing addr (some pid)).unrecorded ≠ some p := by
                intro heq
                cases heq
                exact hp rfl
              simp [hne]
          pending := by
            intro a p hclosing
            cases hclosing
          limits := h.limits }

/-! ## Steps and runs -/

/-- The order of events that the accounting relies on: while the listener is
closing a new child's socket, `waitpid` does not return that child. -/
def ReapsRecorded (s : State) (a : Action) : Prop :=
  ∀ addr pid, s.pc = .closing addr (some pid) → a ≠ .waitpidReturns (some pid)

/-- The invariant of a run: kept, or ended by the failure of a system call. -/
def RunInv (maxClients maxPerIp : Nat) : Except Fault State → Prop
  | .error f => ∃ text, f = .die text
  | .ok s => Inv maxClients maxPerIp s

theorem runInv_of_ok {r : Except Fault State}
    (h : ∃ s', r = .ok s' ∧ Inv maxClients maxPerIp s') : RunInv maxClients maxPerIp r := by
  obtain ⟨s', rfl, hinv⟩ := h
  exact hinv

theorem step_inv (h : Inv maxClients maxPerIp s) {a : Action} (hsafe : ReapsRecorded s a)
    {r : Except Fault State} (hstep : step s a = some r) : RunInv maxClients maxPerIp r := by
  cases a with
  | childExits pid =>
      simp only [step, Option.ite_none_right_eq_some, Option.some.injEq] at hstep
      obtain ⟨-, rfl⟩ := hstep
      exact h.childExits pid
  | acceptReturns client =>
      simp only [step, Option.ite_none_right_eq_some, Option.some.injEq] at hstep
      obtain ⟨hpc, rfl⟩ := hstep
      exact h.setPc (by rw [hpc]; exact ⟨rfl, rfl⟩) ⟨rfl, rfl⟩
  | handlerStarts =>
      simp only [step, Option.ite_none_right_eq_some, Option.some.injEq] at hstep
      obtain ⟨-, rfl⟩ := hstep
      exact h.setHandler true
  | waitpidReturns pid =>
      cases pid with
      | none =>
          simp only [step, Option.ite_none_right_eq_some, Option.some.injEq] at hstep
          obtain ⟨-, rfl⟩ := hstep
          exact h.setHandler false
      | some pid =>
          simp only [step, Option.ite_none_right_eq_some, Option.some.injEq] at hstep
          obtain ⟨⟨-, c, hc, rfl, -⟩, rfl⟩ := hstep
          have hun : s.pc.unrecorded ≠ some c.pid := by
            intro heq
            cases hpc : s.pc with
            | accept => simp [hpc, Pc.unrecorded] at heq
            | accepted client => simp [hpc, Pc.unrecorded] at heq
            | closing addr newChild =>
                rw [hpc] at heq
                obtain rfl : newChild = some c.pid := heq
                exact hsafe addr c.pid hpc rfl
          obtain ⟨s', hrun, hinv, -⟩ := h.reapOne hc hun
          exact runInv_of_ok ⟨s', hrun, hinv⟩
  | waitpidFails =>
      simp only [step, Option.ite_none_right_eq_some, Option.some.injEq] at hstep
      obtain ⟨-, rfl⟩ := hstep
      exact ⟨_, rfl⟩
  | proceeds newChild =>
      simp only [step] at hstep
      split at hstep
      · next hpc hhandler =>
          cases hstep
          exact h.setPc (by rw [hpc]; exact ⟨rfl, rfl⟩) ⟨rfl, rfl⟩
      · next addr hpc hhandler =>
          simp only [Option.ite_none_right_eq_some, Option.some.injEq] at hstep
          obtain ⟨hfork, rfl⟩ := hstep
          exact runInv_of_ok (h.launchChild hpc fun pid hpid => (hfork pid hpid).2)
      · cases hstep
  | closeReturns =>
      simp only [step] at hstep
      split at hstep
      · next addr newChild hpc hhandler =>
          cases hstep
          exact runInv_of_ok (h.afterClose hpc)
      · cases hstep
  | closeFails =>
      simp only [step] at hstep
      split at hstep
      · cases hstep
        exact ⟨_, rfl⟩
      · cases hstep

theorem run_inv {r : Except Fault State} (h : Reachable ReapsRecorded r) :
    RunInv maxClients maxPerIp r := by
  induction h with
  | init => exact inv_init
  | step _ hsafe hstep ih => exact step_inv ih hsafe hstep

/-- In every run in which no child is reaped inside the close of its own socket,
the accounting holds in every state. -/
theorem accountingOk_of_reapsRecorded (maxClients maxPerIp : Nat) (r : Except Fault State)
    (h : Reachable ReapsRecorded r) : AccountingOk maxClients maxPerIp r := by
  have hinv : RunInv maxClients maxPerIp r := run_inv h
  cases r with
  | error f => exact hinv
  | ok s => exact ⟨hinv.countsMatch, hinv.limits⟩

/-- The runs of a list of actions; it stops where an action cannot happen or
ends the process. -/
def run : State → List Action → Option (Except Fault State)
  | s, [] => some (.ok s)
  | s, a :: as =>
    match step s a with
    | some (.ok s') => run s' as
    | r => if as.isEmpty then r else none

theorem reachable_of_run {allowed : State → Action → Prop} {s : State} {as : List Action}
    {r : Except Fault State} (hs : Reachable allowed (.ok s))
    (hallowed : ∀ a ∈ as, ∀ s, allowed s a) (hrun : run s as = some r) : Reachable allowed r := by
  induction as generalizing s with
  | nil =>
      cases hrun
      exact hs
  | cons a as ih =>
      rw [run] at hrun
      have ha := hallowed a (by simp)
      split at hrun
      · next s' hstep =>
          exact ih (.step hs (ha s) hstep) (fun b hb => hallowed b (by simp [hb])) hrun
      · split_ifs at hrun
        exact .step hs (ha s) hrun

/-- A client's child is forked and recorded. -/
def oneClient : List Action :=
  [.acceptReturns (some [127, 0, 0, 1]), .proceeds (some 7), .closeReturns]

theorem oneClient_reapsRecorded : ∀ a ∈ oneClient, ∀ s, ReapsRecorded s a := by
  intro a ha s addr pid _
  simp only [oneClient, List.mem_cons, List.not_mem_nil, or_false] at ha
  rcases ha with rfl | rfl | rfl <;> exact fun h => nomatch h

theorem accountingOk_oneClient : ∃ r, run .init oneClient = some r ∧ AccountingOk 10 2 r := by
  obtain ⟨r, hr⟩ : ∃ r, run .init oneClient = some r := ⟨_, rfl⟩
  exact ⟨r, hr, accountingOk_of_reapsRecorded 10 2 r
    (reachable_of_run .init oneClient_reapsRecorded hr)⟩

def earlyReap : List Action :=
  [.acceptReturns (some [127, 0, 0, 1]), .proceeds (some 7), .childExits 7, .handlerStarts,
    .waitpidReturns (some 7)]

/-- The forked child exits at once, the interrupted close lets the handler run,
and the handler looks up a pid that is not in the table yet. -/
theorem early_reap_dereferences_null :
    run .init earlyReap = some (.error .nullDeref) ∧
      ¬ ∀ r, Reachable (fun _ _ => True) r → AccountingOk 10 2 r := by
  have hrun : run .init earlyReap = some (.error .nullDeref) := rfl
  refine ⟨hrun, fun hall => ?_⟩
  obtain ⟨text, h⟩ := hall _ (reachable_of_run .init (fun _ _ _ => trivial) hrun)
  cases h

end Vsftpd.Standalone
