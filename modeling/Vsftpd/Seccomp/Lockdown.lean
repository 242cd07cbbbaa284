import Vsftpd.Lib.Bpf
import Vsftpd.Seccomp.Rules

/-!
# From the rule table to the BPF program

`seccomp_sandbox_lockdown` writes the program into an array of `len` slots
through a pointer with bounds `count(len)`, and declares `len` to the kernel.
-/

namespace Vsftpd.Seccomp

open Vsftpd.Lib.Bpf

def auditArchX8664 : UInt32 := 0xc000003e
def seccompRetKill : UInt32 := 0
def seccompRetAllow : UInt32 := 0x7fff0000

/-- The offset of `args[arg - 1]` in `struct seccomp_data`. -/
def argOffset (arg : Int32) : UInt32 := (16 + (arg - 1) * 8).toUInt32

def blockSize (r : Row) : UInt8 :=
  if r.args3 ≠ 0 then 8
  else if r.args2 ≠ 0 then 6
  else if r.args1 ≠ 0 then 4
  else 1

/-- The checks of the third and of the second argument, with their own `jf`. -/
def argMatchCode (arg val : Int32) (jf : UInt8) : List SockFilter :=
  if arg ≠ 0 then
    [stmt ldWAbs (argOffset arg), jump jmpJeqK val.toUInt32 0 jf]
  else []

/-- The check of the first argument; an index above 100 marks a mask. -/
def arg1Code (r : Row) : List SockFilter :=
  if r.args1 ≠ 0 then
    if r.args1 > 100 then
      [stmt ldWAbs (argOffset (r.args1 - 100)), jump jmpJsetK (~~~r.vals1).toUInt32 1 0]
    else
      [stmt ldWAbs (argOffset r.args1), jump jmpJeqK r.vals1.toUInt32 0 1]
  else []

def verdictCode (r : Row) : SockFilter :=
  if r.errno = 0 then stmt retK seccompRetAllow
  else stmt retK (0x00050000 + r.errno).toUInt32

/-- One turn of the loop over the rules. -/
def ruleCode (r : Row) : List SockFilter :=
  [jump jmpJeqK r.syscall.toUInt32 0 (blockSize r)] ++
    argMatchCode r.args3 r.vals3 5 ++
    argMatchCode r.args2 r.vals2 3 ++
    arg1Code r ++
    [verdictCode r] ++
    -- "We trashed the accumulator so put it back."
    (if r.args1 ≠ 0 then [stmt ldWAbs 0] else [])

/-- The architecture check, and the load of the system call number. -/
def preludeCode : List SockFilter :=
  [stmt ldWAbs 4, jump jmpJeqK auditArchX8664 1 0, stmt retK seccompRetKill, stmt ldWAbs 0]

def filterCode (t : Table) : List SockFilter :=
  preludeCode ++ t.rows.flatMap ruleCode ++ [stmt retK seccompRetKill]

/-- The length the array is given. -/
def filterLen (t : Table) : Nat :=
  t.syscallIndex * 2 + t.oneArgValidations * 3 + t.twoArgValidations * 5 +
    t.threeArgValidations * 7 + 5

/-- `struct sock_fprog`; `len` is an `unsigned short`. -/
structure SockFprog where
  len : UInt16
  filter : List SockFilter
  deriving DecidableEq, Repr

/-- The program as written.  A write past `count(len)` fails its bounds check
(`none`); slots that are never written keep what the stack held, `garbage`. -/
def buildFilter (garbage : Nat → SockFilter) (t : Table) : Option SockFprog :=
  let len := filterLen t
  let code := filterCode t
  if code.length ≤ len then
    some { len := UInt16.ofNat len
           filter := code ++ (List.range (len - code.length)).map garbage }
  else none

/-! ## Installing the program -/

/-- What `prctl` answers: success, `EINVAL`, or another errno. -/
inductive PrctlResult where
  | ok
  | einval
  | failed
  deriving DecidableEq, Repr

inductive Lockdown where
  | installed (prog : SockFprog)
  | notInstalled
  | die (text : String)
  | boundsTrap
  deriving DecidableEq, Repr

def seccompSandboxLockdown (tunableSeccompSandbox : Bool) (noNewPrivs setSeccomp : PrctlResult)
    (garbage : Nat → SockFilter) (t : Table) : Lockdown :=
  match buildFilter garbage t with
  | none => .boundsTrap
  | some prog =>
    match noNewPrivs with
    | .einval => .notInstalled
    | .failed => .die "prctl PR_SET_NO_NEW_PRIVS"
    | .ok =>
      if !tunableSeccompSandbox then .notInstalled
      else
        match setSeccomp with
        | .ok => .installed prog
        | .einval => .notInstalled
        | .failed => .die "prctl PR_SET_SECCOMP failed"

/-! ## The shape of a rule's block

A helper's row compiles to a number test, a guarded return, and, when the
guards overwrote the accumulator, a reload. -/

theorem admitted_arg_cases {a : Int32} (h : 1 ≤ a ∧ a ≤ 6) :
    a = 1 ∨ a = 2 ∨ a = 3 ∨ a = 4 ∨ a = 5 ∨ a = 6 := by
  obtain ⟨hlo, hhi⟩ := h
  have hlo' : (1 : Int) ≤ a.toInt := Int32.le_iff_toInt_le.mp hlo
  have hhi' : a.toInt ≤ 6 := Int32.le_iff_toInt_le.mp hhi
  have hcases : a.toInt = 1 ∨ a.toInt = 2 ∨ a.toInt = 3 ∨ a.toInt = 4 ∨ a.toInt = 5 ∨
      a.toInt = 6 := by omega
  rcases hcases with h | h | h | h | h | h
  · exact .inl (Int32.toInt_inj.mp h)
  · exact .inr (.inl (Int32.toInt_inj.mp h))
  · exact .inr (.inr (.inl (Int32.toInt_inj.mp h)))
  · exact .inr (.inr (.inr (.inl (Int32.toInt_inj.mp h))))
  · exact .inr (.inr (.inr (.inr (.inl (Int32.toInt_inj.mp h)))))
  · exact .inr (.inr (.inr (.inr (.inr (Int32.toInt_inj.mp h)))))

/-- What the index tests of the compiler answer on an admitted index, plain
and with the mask mark. -/
theorem admitted_arg {a : Int32} (h : 1 ≤ a ∧ a ≤ 6) :
    a ≠ 0 ∧ ¬ a > 100 ∧ 100 + a ≠ 0 ∧ 100 + a > 100 ∧ 100 + a - 100 = a := by
  rcases admitted_arg_cases h with rfl | rfl | rfl | rfl | rfl | rfl <;> decide

def Constraint.check : Constraint → Check
  | .equals arg val => ⟨argOffset arg, false, val.toUInt32⟩
  | .within arg mask => ⟨argOffset arg, true, (~~~mask).toUInt32⟩

/-- The checks of a call; the last argument is compiled first. -/
def Call.checks (c : Call) : List Check := c.constraints.reverse.map Constraint.check

theorem length_checks_le (c : Call) : c.checks.length ≤ 3 := by
  cases c <;> simp [Call.checks, Call.constraints]

/-- The value a matching call makes the program return. -/
def Call.ret : Call → UInt32
  | .reject _ errcode => (0x00050000 + errcode).toUInt32
  | _ => seccompRetAllow

/-- The reload behind a rule that has checks. -/
def reload : List Check → List SockFilter
  | [] => []
  | _ :: _ => [stmt ldWAbs 0]

/-- The block without its number test. -/
def Call.body (c : Call) : List SockFilter :=
  guardCode c.checks ++ stmt retK c.ret :: reload c.checks

theorem length_body (c : Call) :
    c.body.length = 1 + (if c.constraints.length = 1 then 3 else 0) +
      (if c.constraints.length = 2 then 5 else 0) + if c.constraints.length = 3 then 7 else 0 := by
  cases c <;> rfl

theorem length_body_lt (c : Call) : c.body.length < 256 := by
  rw [length_body]
  split_ifs <;> omega

theorem ruleCode_row {c : Call} (h : c.Admissible) :
    ruleCode c.row =
      jump jmpJeqK c.nr.toUInt32 0 (UInt8.ofNat c.body.length) :: c.body := by
  have harg : ∀ k ∈ c.constraints, k.arg ≠ 0 ∧ ¬ k.arg > 100 ∧ 100 + k.arg ≠ 0 ∧
      100 + k.arg > 100 ∧ 100 + k.arg - 100 = k.arg := fun k hk => admitted_arg (h.args k hk)
  cases c with
  | allow nr => rfl
  | reject nr e =>
      have he : e ≠ 0 := by
        rintro rfl
        exact absurd (h.errcode 0 (by simp [Call.errcodes])).1 (by decide)
      simp only [ruleCode, Call.row, verdictCode, he, if_false]
      rfl
  | oneMatch nr arg val =>
      simp only [Call.constraints, List.forall_mem_cons, Constraint.arg] at harg
      obtain ⟨⟨h0, h100, -⟩, -⟩ := harg
      simp only [ruleCode, Call.row, blockSize, arg1Code, ne_eq, h0, h100, not_false_eq_true,
        if_true, if_false]
      rfl
  | oneMask nr arg val =>
      simp only [Call.constraints, List.forall_mem_cons, Constraint.arg] at harg
      obtain ⟨⟨-, -, h0, h100, hsub⟩, -⟩ := harg
      simp only [ruleCode, Call.row, blockSize, arg1Code, ne_eq, h0, h100, hsub,
        not_false_eq_true, if_true]
      rfl
  | twoMatch nr arg1 val1 arg2 val2 =>
      simp only [Call.constraints, List.forall_mem_cons, Constraint.arg] at harg
      obtain ⟨⟨h0, h100, -⟩, ⟨h2, -⟩, -⟩ := harg
      simp only [ruleCode, Call.row, blockSize, arg1Code, argMatchCode, ne_eq, h0, h100, h2,
        not_false_eq_true, if_true, if_false]
      rfl
  | twoMaskMatch nr arg1 val1 arg2 val2 =>
      simp only [Call.constraints, List.forall_mem_cons, Constraint.arg] at harg
      obtain ⟨⟨-, -, h0, h100, hsub⟩, ⟨h2, -⟩, -⟩ := harg
      simp only [ruleCode, Call.row, blockSize, arg1Code, argMatchCode, ne_eq, h0, h100, hsub,
        h2, not_false_eq_true, if_true]
      rfl
  | threeMatch nr arg1 val1 arg2 val2 arg3 val3 =>
      simp only [Call.constraints, List.forall_mem_cons, Constraint.arg] at harg
      obtain ⟨⟨h0, h100, -⟩, ⟨h2, -⟩, ⟨h3, -⟩, -⟩ := harg
      simp only [ruleCode, Call.row, blockSize, arg1Code, argMatchCode, ne_eq, h0, h100, h2, h3,
        not_false_eq_true, if_true, if_false]
      rfl

/-! ## The declared length is the emitted length -/

theorem length_rules {calls : List Call} (hadm : ∀ c ∈ calls, c.Admissible) :
    ((calls.map Call.row).flatMap ruleCode).length =
      calls.length * 2 + argsCount calls 1 * 3 + argsCount calls 2 * 5 +
        argsCount calls 3 * 7 := by
  induction calls with
  | nil => rfl
  | cons c calls ih =>
      have hc := ruleCode_row (hadm c (by simp))
      have hrest := ih fun d hd => hadm d (by simp [hd])
      have hbody := length_body c
      rw [List.map_cons, List.flatMap_cons, List.length_append, hrest, hc, List.length_cons,
        hbody, List.length_cons]
      simp only [argsCount, List.countP_cons, decide_eq_true_eq]
      split_ifs <;> omega

theorem length_filterCode {calls : List Call} (hadm : ∀ c ∈ calls, c.Admissible) :
    (filterCode (tableOf calls)).length = filterLen (tableOf calls) := by
  have h := length_rules hadm
  have hpre : preludeCode.length = 4 := rfl
  simp only [filterCode, filterLen, tableOf, Table.syscallIndex, List.length_append,
    List.length_map, List.length_singleton] at h ⊢
  omega

/-- Nine instructions a rule and five more: the length fits `prog.len`. -/
theorem filterLen_lt {calls : List Call} (hlen : calls.length ≤ kMaxSyscalls) :
    filterLen (tableOf calls) < 2 ^ 16 := by
  have hcount : ∀ n, argsCount calls n ≤ calls.length := fun n => List.countP_le_length
  have h1 := hcount 1
  have h2 := hcount 2
  have h3 := hcount 3
  simp only [filterLen, tableOf, Table.syscallIndex, List.length_map, kMaxSyscalls] at hlen ⊢
  omega

/-- The program of an admitted sequence of calls is written without a failed
bounds check and fills the array. -/
theorem buildFilter_tableOf {calls : List Call} (hadm : ∀ c ∈ calls, c.Admissible)
    (garbage : Nat → SockFilter) :
    buildFilter garbage (tableOf calls) =
      some ⟨UInt16.ofNat (filterLen (tableOf calls)), filterCode (tableOf calls)⟩ := by
  have h := length_filterCode hadm
  simp only [buildFilter, h, Nat.le_refl, if_true, Nat.sub_self, List.range_zero, List.map_nil,
    List.append_nil]

theorem lockdown_installs {tunableSeccompSandbox : Bool} {garbage : Nat → SockFilter}
    {t : Table} {noNewPrivs setSeccomp : PrctlResult} {prog : SockFprog} :
    seccompSandboxLockdown tunableSeccompSandbox noNewPrivs setSeccomp garbage t =
        .installed prog ↔
      buildFilter garbage t = some prog ∧ tunableSeccompSandbox = true ∧
        noNewPrivs = .ok ∧ setSeccomp = .ok := by
  unfold seccompSandboxLockdown
  cases buildFilter garbage t with
  | none => simp
  | some p =>
      cases noNewPrivs <;> cases setSeccomp <;> cases tunableSeccompSandbox <;> simp

end Vsftpd.Seccomp
