import Vsftpd.Seccomp.Lockdown

/-!
# The compiled filter decides by the first matching rule

The meaning of a rule list, stated on the rules alone, and the proof that the
program compiled from it computes that meaning on every `struct seccomp_data`.
-/

namespace Vsftpd.Seccomp

open Vsftpd.Lib.Bpf

/-! ## What a filter sees -/

/-- `struct seccomp_data`. -/
structure SeccompData where
  nr : UInt32
  arch : UInt32
  instructionPointer : UInt64
  args : Fin 6 → UInt64

/-- The low and the high half of a 64-bit word, as they lie in memory. -/
def halves (w : UInt64) : List UInt32 := [w.toUInt32, (w >>> 32).toUInt32]

def SeccompData.words (d : SeccompData) : List UInt32 :=
  [d.nr, d.arch] ++ halves d.instructionPointer ++
    (List.finRange 6).flatMap fun i => halves (d.args i)

/-- An aligned load of 32 bits from inside the structure. -/
def SeccompData.load (d : SeccompData) (off : UInt32) : Option UInt32 :=
  if off.toNat % 4 = 0 then d.words[off.toNat / 4]? else none

/-- The low 32 bits of argument `arg`, counted from 1. -/
def SeccompData.lowArg (d : SeccompData) (arg : Int32) : UInt32 :=
  (d.args (Fin.ofNat 6 (arg.toInt.toNat - 1))).toUInt32

theorem SeccompData.load_nr (d : SeccompData) : d.load 0 = some d.nr := rfl

theorem SeccompData.load_arch (d : SeccompData) : d.load 4 = some d.arch := rfl

theorem SeccompData.load_arg (d : SeccompData) {arg : Int32} (h : 1 ≤ arg ∧ arg ≤ 6) :
    d.load (argOffset arg) = some (d.lowArg arg) := by
  rcases admitted_arg_cases h with rfl | rfl | rfl | rfl | rfl | rfl <;> rfl

/-! ## What a rule list means -/

inductive Verdict where
  | kill
  | allow
  | errno (e : UInt32)
  deriving DecidableEq, Repr

/-- The kernel's reading of a filter's return value. -/
def Verdict.ofRet (ret : UInt32) : Option Verdict :=
  if ret &&& 0xffff0000 = 0 then some .kill
  else if ret &&& 0xffff0000 = 0x7fff0000 then some .allow
  else if ret &&& 0xffff0000 = 0x00050000 then some (.errno (ret &&& 0xffff))
  else none

/-- An argument constraint, on the 32-bit word the filter can load. -/
def Constraint.Holds (d : SeccompData) : Constraint → Prop
  | .equals arg val => d.lowArg arg = val.toUInt32
  | .within arg mask => d.lowArg arg &&& ~~~mask.toUInt32 = 0

instance (d : SeccompData) : DecidablePred (Constraint.Holds d)
  | .equals arg val => inferInstanceAs (Decidable (d.lowArg arg = val.toUInt32))
  | .within arg mask => inferInstanceAs (Decidable (d.lowArg arg &&& ~~~mask.toUInt32 = 0))

def Call.verdict : Call → Verdict
  | .reject _ errcode => .errno errcode.toUInt32
  | _ => .allow

/-- The rule applies to the system call. -/
def Call.Matches (d : SeccompData) (c : Call) : Prop :=
  d.nr = c.nr.toUInt32 ∧ ∀ k ∈ c.constraints, k.Holds d

instance (d : SeccompData) : DecidablePred (Call.Matches d) := fun c =>
  inferInstanceAs (Decidable (d.nr = c.nr.toUInt32 ∧ ∀ k ∈ c.constraints, k.Holds d))

/-- The verdict on a system call: `KILL` for a foreign architecture, else that
of the first rule that matches, else `KILL`. -/
def firstMatch (calls : List Call) (d : SeccompData) : Verdict :=
  if d.arch ≠ auditArchX8664 then .kill
  else
    match calls.find? (fun c => c.Matches d) with
    | some c => c.verdict
    | none => .kill

/-! ## One rule -/

/-- The word a check compares. -/
def checkWord (d : SeccompData) (k : Check) : UInt32 := (d.load k.off).getD 0

theorem check_load (d : SeccompData) {k : Constraint} (h : 1 ≤ k.arg ∧ k.arg ≤ 6) :
    d.load k.check.off = some (d.lowArg k.arg) := by
  cases k with
  | equals arg val => exact d.load_arg h
  | within arg mask => exact d.load_arg h

theorem checks_load {c : Call} (h : c.Admissible) (d : SeccompData) :
    ∀ k ∈ c.checks, d.load k.off = some (checkWord d k) := by
  intro k hk
  obtain ⟨r, hr, rfl⟩ := List.mem_map.mp hk
  have hload := check_load d (h.args r (List.mem_reverse.mp hr))
  rw [checkWord, hload, Option.getD_some]

/-- The compiled check of a constraint passes exactly when it holds. -/
theorem check_pass_iff (d : SeccompData) {k : Constraint} (h : 1 ≤ k.arg ∧ k.arg ≤ 6) :
    k.check.pass (checkWord d k.check) ↔ k.Holds d := by
  have hword : checkWord d k.check = d.lowArg k.arg := by
    rw [checkWord, check_load d h, Option.getD_some]
  rw [hword]
  cases k with
  | equals arg val => simp [Constraint.check, Check.pass, Constraint.Holds, Constraint.arg]
  | within arg mask =>
      have hnot : (~~~mask).toUInt32 = ~~~mask.toUInt32 := rfl
      simp [Constraint.check, Check.pass, Constraint.Holds, Constraint.arg, hnot]

theorem checks_pass_iff {c : Call} (h : c.Admissible) (d : SeccompData) :
    (∀ k ∈ c.checks, k.pass (checkWord d k)) ↔ ∀ k ∈ c.constraints, k.Holds d := by
  simp only [Call.checks, List.forall_mem_map, List.mem_reverse]
  constructor
  · intro hall k hk
    exact (check_pass_iff d (h.args k hk)).mp (hall k hk)
  · intro hall k hk
    exact (check_pass_iff d (h.args k hk)).mpr (hall k hk)

/-- Behind the guarded return the accumulator holds the system call number
again: it was never overwritten, or the reload runs. -/
theorem exec_body_fail {c : Call} (h : c.Admissible) (d : SeccompData) (rest : List SockFilter)
    (hfail : ¬ ∀ k ∈ c.checks, k.pass (checkWord d k)) :
    exec d.load 0 d.nr (c.body ++ rest) = exec d.load 0 d.nr rest := by
  have hlen : c.checks.length < 128 := by
    have := length_checks_le c
    omega
  obtain ⟨a', ha'⟩ := (exec_guardCode (checkWord d) c.ret (reload c.checks ++ rest) c.checks d.nr
    (checks_load h d) hlen).2 hfail
  have hbody : c.body ++ rest =
      guardCode c.checks ++ stmt retK c.ret :: (reload c.checks ++ rest) := by
    simp [Call.body]
  rw [hbody, ha']
  cases hck : c.checks with
  | nil => simp [hck] at hfail
  | cons k ks => exact exec_ld d.load_nr

theorem exec_body_pass {c : Call} (h : c.Admissible) (d : SeccompData) (rest : List SockFilter)
    (hpass : ∀ k ∈ c.checks, k.pass (checkWord d k)) :
    exec d.load 0 d.nr (c.body ++ rest) = some c.ret := by
  have hlen : c.checks.length < 128 := by
    have := length_checks_le c
    omega
  have hbody : c.body ++ rest =
      guardCode c.checks ++ stmt retK c.ret :: (reload c.checks ++ rest) := by
    simp [Call.body]
  rw [hbody]
  exact (exec_guardCode (checkWord d) c.ret (reload c.checks ++ rest) c.checks d.nr
    (checks_load h d) hlen).1 hpass

/-- A rule answers its verdict when it matches and is skipped when it does not. -/
theorem exec_ruleCode {c : Call} (h : c.Admissible) (d : SeccompData) (rest : List SockFilter) :
    exec d.load 0 d.nr (ruleCode c.row ++ rest) =
      if c.Matches d then some c.ret else exec d.load 0 d.nr rest := by
  have hjf : (UInt8.ofNat c.body.length).toNat = c.body.length := by
    have := length_body_lt c
    rw [UInt8.toNat_ofNat']
    omega
  rw [ruleCode_row h, List.cons_append, exec_jeq]
  by_cases hnr : d.nr = c.nr.toUInt32
  · have hmatch : c.Matches d ↔ ∀ k ∈ c.checks, k.pass (checkWord d k) := by
      rw [checks_pass_iff h d]
      simp [Call.Matches, hnr]
    simp only [hnr, if_true, hmatch, UInt8.toNat_zero]
    rw [← hnr]
    by_cases hpass : ∀ k ∈ c.checks, k.pass (checkWord d k)
    · rw [if_pos hpass, exec_body_pass h d rest hpass]
    · rw [if_neg hpass, exec_body_fail h d rest hpass]
  · have hno : ¬ c.Matches d := fun hm => hnr hm.1
    rw [if_neg hnr, if_neg hno, hjf, exec_skip_append d.load d.nr rest rfl]

/-! ## The whole program -/

theorem verdict_ofRet_errno : ∀ n : Fin 256,
    Verdict.ofRet (0x00050000 + Int32.ofNat n).toUInt32 =
      some (.errno (Int32.ofNat n).toUInt32) := by decide +kernel

theorem verdict_ofRet {c : Call} (h : c.Admissible) : Verdict.ofRet c.ret = some c.verdict := by
  have hallow : Verdict.ofRet seccompRetAllow = some .allow := by decide
  cases c with
  | reject nr e =>
      obtain ⟨hlo, hhi⟩ := h.errcode e (by simp [Call.errcodes])
      have hlo' : (1 : Int) ≤ e.toInt := Int32.le_iff_toInt_le.mp hlo
      have hhi' : e.toInt ≤ 255 := Int32.le_iff_toInt_le.mp hhi
      have he : e = Int32.ofNat e.toInt.toNat := by
        apply Int32.toInt_inj.mp
        rw [Int32.toInt_ofNat_of_lt (by omega)]
        omega
      have hret := verdict_ofRet_errno ⟨e.toInt.toNat, by omega⟩
      rw [← he] at hret
      exact hret
  | _ => exact hallow

theorem exec_rules {calls : List Call} (hadm : ∀ c ∈ calls, c.Admissible) (d : SeccompData) :
    exec d.load 0 d.nr ((calls.map Call.row).flatMap ruleCode ++ [stmt retK seccompRetKill]) =
      match calls.find? (fun c => c.Matches d) with
      | some c => some c.ret
      | none => some seccompRetKill := by
  induction calls with
  | nil => rfl
  | cons c calls ih =>
      have hc := exec_ruleCode (hadm c (by simp)) d
        ((calls.map Call.row).flatMap ruleCode ++ [stmt retK seccompRetKill])
      have hrest := ih fun e he => hadm e (by simp [he])
      rw [List.map_cons, List.flatMap_cons, List.append_assoc, hc, hrest, List.find?_cons]
      by_cases hm : c.Matches d <;> simp [hm]

theorem run_filterCode {calls : List Call} (hadm : ∀ c ∈ calls, c.Admissible)
    (d : SeccompData) :
    (run d.load (filterCode (tableOf calls))).bind Verdict.ofRet = some (firstMatch calls d) := by
  have hkill : Verdict.ofRet seccompRetKill = some .kill := rfl
  unfold run filterCode preludeCode firstMatch
  simp only [List.cons_append, List.nil_append, tableOf]
  rw [exec_ld d.load_arch, exec_jeq]
  by_cases harch : d.arch = auditArchX8664
  · have hskip : ∀ p, exec d.load 1 d.arch (stmt retK seccompRetKill :: p) =
        exec d.load 0 d.arch p := fun p => rfl
    simp only [harch, if_true, ne_eq, not_true_eq_false, if_false, UInt8.toNat_one]
    rw [← harch, hskip, exec_ld d.load_nr, exec_rules hadm]
    cases hfind : calls.find? (fun c => c.Matches d) with
    | none => exact hkill
    | some c => exact verdict_ofRet (hadm c (List.mem_of_find?_eq_some hfind))
  · simp only [harch, if_false, ne_eq, not_false_eq_true, if_true, UInt8.toNat_zero]
    rw [exec_ret]
    exact hkill

theorem jumpsWithin_body (c : Call) : JumpsWithin 0 c.body := by
  have hlen : c.checks.length < 128 := by
    have := length_checks_le c
    omega
  have hguard := jumpsWithin_guardCode c.checks hlen
  unfold Call.body
  cases hck : c.checks with
  | nil => exact ⟨by simp, trivial⟩
  | cons k ks =>
      rw [hck] at hguard
      exact hguard.append ⟨by simp, by simp, trivial⟩

/-- A rule's number test may leave for the instruction behind its block; there
always is one. -/
theorem jumpsWithin_ruleCode {c : Call} (h : c.Admissible) : JumpsWithin 1 (ruleCode c.row) := by
  have hlt := length_body_lt c
  rw [ruleCode_row h]
  refine ⟨fun t ht => ?_, (jumpsWithin_body c).mono (by omega)⟩
  simp only [targets_jeq, List.mem_cons, List.not_mem_nil, or_false, UInt8.toNat_ofNat'] at ht
  rcases ht with rfl | rfl
  · simp
  · omega

theorem jumpsWithin_rules {calls : List Call} (hadm : ∀ c ∈ calls, c.Admissible) :
    JumpsWithin 1 ((calls.map Call.row).flatMap ruleCode) := by
  induction calls with
  | nil => trivial
  | cons c calls ih =>
      have hc := jumpsWithin_ruleCode (hadm c (by simp))
      rw [List.map_cons, List.flatMap_cons]
      exact (hc.mono (by omega)).append (ih fun d hd => hadm d (by simp [hd]))

theorem jumpsInside_filterCode {calls : List Call} (hadm : ∀ c ∈ calls, c.Admissible) :
    JumpsInside (filterCode (tableOf calls)) := by
  have hpre : JumpsWithin 1 preludeCode := by
    refine ⟨by simp, ?_, by simp, by simp, trivial⟩
    simp only [targets_jeq]
    decide
  have hkill : JumpsWithin 0 [stmt retK seccompRetKill] := ⟨by simp, trivial⟩
  have hrules := jumpsWithin_rules hadm
  apply JumpsWithin.jumpsInside
  exact ((hpre.mono (by omega)).append hrules).append hkill

/-- The filter compiler is correct: any admitted sequence of helper calls that
fits the table yields a program of the declared length, with every jump inside
it, that decides every system call by the first matching rule. -/
theorem lockdown_decides_by_first_match (calls : List Call)
    (hadm : ∀ c ∈ calls, c.Admissible) (hlen : calls.length ≤ kMaxSyscalls)
    (garbage : Nat → SockFilter) :
    ∃ t prog, buildTable calls = .ok t ∧ buildFilter garbage t = some prog ∧
      prog.filter = filterCode t ∧
      prog.len.toNat = prog.filter.length ∧ JumpsInside prog.filter ∧
      ∀ d : SeccompData,
        (run d.load prog.filter).bind Verdict.ofRet = some (firstMatch calls d) := by
  refine ⟨tableOf calls, _, buildTable_ok hadm hlen, buildFilter_tableOf hadm garbage, rfl, ?_,
    jumpsInside_filterCode hadm, run_filterCode hadm⟩
  have hlt := filterLen_lt hlen
  rw [length_filterCode hadm, UInt16.toNat_ofNat']
  omega

/-- A table with every shape of rule. -/
def sampleCalls : List Call :=
  [.allow 0, .threeMatch 41 1 2 2 1 3 6, .oneMask 10 3 1, .twoMatch 9 3 3 4 34,
    .twoMaskMatch 72 3 0x88c43 2 4, .oneMatch 45 4 2, .reject 25 38]

theorem sample_lockdown_decides_by_first_match :
    ∃ t prog, buildTable sampleCalls = .ok t ∧
      buildFilter (fun _ => ⟨0, 0, 0, 0⟩) t = some prog ∧
      prog.filter = filterCode t ∧
      prog.len.toNat = prog.filter.length ∧ JumpsInside prog.filter ∧
      ∀ d : SeccompData,
        (run d.load prog.filter).bind Verdict.ofRet = some (firstMatch sampleCalls d) :=
  lockdown_decides_by_first_match sampleCalls (by decide) (by decide) _

end Vsftpd.Seccomp
