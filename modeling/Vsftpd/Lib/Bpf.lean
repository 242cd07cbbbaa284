import Mathlib.Data.List.Basic

/-!
# Classic BPF filters

The fragment of classic BPF that accept/reject filters use: absolute word
loads, conditional and unconditional forward jumps on the accumulator, and
`RET` of a constant.  Jumps only go forward, so a program is run on what is
left of it, and a jump drops instructions from that list.

`exec_guardCode` is the rule for a *guarded return*: a row of load-and-test
pairs, each leaving for one common exit, in front of a `RET`.
-/

namespace Vsftpd.Lib.Bpf

/-- `struct sock_filter`. -/
structure SockFilter where
  code : UInt16
  jt : UInt8
  jf : UInt8
  k : UInt32
  deriving DecidableEq, Repr

/-! ## Operation codes -/

def ldWAbs : UInt16 := 0x20
def jmpJa : UInt16 := 0x05
def jmpJeqK : UInt16 := 0x15
def jmpJgtK : UInt16 := 0x25
def jmpJgeK : UInt16 := 0x35
def jmpJsetK : UInt16 := 0x45
def retK : UInt16 := 0x06

inductive Op where
  | ld
  | ja
  | jump (test : UInt32 → UInt32 → Bool)
  | ret

def SockFilter.op? (i : SockFilter) : Option Op :=
  if i.code = ldWAbs then some .ld
  else if i.code = jmpJa then some .ja
  else if i.code = jmpJeqK then some (.jump fun a k => a == k)
  else if i.code = jmpJgtK then some (.jump fun a k => decide (k < a))
  else if i.code = jmpJgeK then some (.jump fun a k => decide (k ≤ a))
  else if i.code = jmpJsetK then some (.jump fun a k => a &&& k != 0)
  else if i.code = retK then some .ret
  else none

/-! ## Execution -/

/-- Run `program` with `skip` instructions still to be jumped over and
accumulator `a`.  `none` is a program the kernel would not have accepted: an
unknown instruction, a load outside the data, or a run past the end. -/
def exec (load : UInt32 → Option UInt32) : Nat → UInt32 → List SockFilter → Option UInt32
  | _, _, [] => none
  | skip + 1, a, _ :: rest => exec load skip a rest
  | 0, a, i :: rest =>
    match i.op? with
    | some .ld =>
      match load i.k with
      | some v => exec load 0 v rest
      | none => none
    | some .ja => exec load i.k.toNat a rest
    | some (.jump test) =>
      if test a i.k then exec load i.jt.toNat a rest else exec load i.jf.toNat a rest
    | some .ret => some i.k
    | none => none

/-- The whole program from a zero accumulator. -/
def run (load : UInt32 → Option UInt32) (program : List SockFilter) : Option UInt32 :=
  exec load 0 0 program

theorem exec_skip (load : UInt32 → Option UInt32) (skip : Nat) (a : UInt32)
    (p : List SockFilter) : exec load skip a p = exec load 0 a (p.drop skip) := by
  induction skip generalizing p with
  | zero => rfl
  | succ skip ih =>
      cases p with
      | nil => rfl
      | cons i rest => simpa [exec] using ih rest

/-- Jumping over exactly a block lands behind it. -/
theorem exec_skip_append (load : UInt32 → Option UInt32) {skip : Nat} (a : UInt32)
    {block : List SockFilter} (rest : List SockFilter) (h : skip = block.length) :
    exec load skip a (block ++ rest) = exec load 0 a rest := by
  rw [exec_skip, h, List.drop_left]

/-! ## Instruction builders -/

def stmt (code : UInt16) (k : UInt32) : SockFilter := ⟨code, 0, 0, k⟩
def jump (code : UInt16) (k : UInt32) (jt jf : UInt8) : SockFilter := ⟨code, jt, jf, k⟩

section Steps

variable {load : UInt32 → Option UInt32} {a v k : UInt32} {jt jf : UInt8}
  {rest : List SockFilter}

theorem exec_ld (h : load k = some v) :
    exec load 0 a (stmt ldWAbs k :: rest) = exec load 0 v rest := by
  have hop : (stmt ldWAbs k).op? = some .ld := rfl
  have hload : load (stmt ldWAbs k).k = some v := h
  simp only [exec, hop, hload]

theorem exec_ret : exec load 0 a (stmt retK k :: rest) = some k := rfl

theorem exec_jeq :
    exec load 0 a (jump jmpJeqK k jt jf :: rest) =
      exec load (if a = k then jt.toNat else jf.toNat) a rest := by
  have hop : (jump jmpJeqK k jt jf).op? = some (.jump fun a k => a == k) := rfl
  simp only [exec, hop]
  by_cases h : a = k <;> simp [h, jump]

theorem exec_jset :
    exec load 0 a (jump jmpJsetK k jt jf :: rest) =
      exec load (if a &&& k ≠ 0 then jt.toNat else jf.toNat) a rest := by
  have hop : (jump jmpJsetK k jt jf).op? = some (.jump fun a k => a &&& k != 0) := rfl
  simp only [exec, hop]
  by_cases h : a &&& k = 0 <;> simp [h, jump]

end Steps

/-! ## What the kernel's checker asks of jumps -/

/-- The targets of `i`, counted from the instruction behind it. -/
def SockFilter.targets (i : SockFilter) : List Nat :=
  match i.op? with
  | some .ja => [i.k.toNat]
  | some (.jump _) => [i.jt.toNat, i.jf.toNat]
  | _ => []

/-- Every jump of the program lands on one of its instructions. -/
def JumpsInside (p : List SockFilter) : Prop :=
  ∀ (pc : Nat) (i : SockFilter), p[pc]? = some i → ∀ t ∈ i.targets, pc + 1 + t < p.length

/-- A block whose jumps overshoot it by less than `rest` has instructions. -/
def JumpsWithin (slack : Nat) : List SockFilter → Prop
  | [] => True
  | i :: rest => (∀ t ∈ i.targets, t < rest.length + slack) ∧ JumpsWithin slack rest

theorem JumpsWithin.mono {n m : Nat} (hnm : n ≤ m) {p : List SockFilter}
    (h : JumpsWithin n p) : JumpsWithin m p := by
  induction p with
  | nil => trivial
  | cons i rest ih =>
      refine ⟨fun t ht => ?_, ih h.2⟩
      have := h.1 t ht
      omega

theorem JumpsWithin.append {n : Nat} {p q : List SockFilter}
    (hp : JumpsWithin (q.length + n) p) (hq : JumpsWithin n q) : JumpsWithin n (p ++ q) := by
  induction p with
  | nil => exact hq
  | cons i rest ih =>
      rw [List.cons_append]
      refine ⟨fun t ht => ?_, ih hp.2⟩
      have := hp.1 t ht
      rw [List.length_append]
      omega

theorem JumpsWithin.jumpsInside {p : List SockFilter} (h : JumpsWithin 0 p) :
    JumpsInside p := by
  induction p with
  | nil =>
      intro pc i hi
      simp at hi
  | cons i rest ih =>
      intro pc j hj t ht
      rw [List.length_cons]
      cases pc with
      | zero =>
          obtain rfl : i = j := by simpa using hj
          have := h.1 t ht
          omega
      | succ pc =>
          have := ih h.2 pc j (by simpa using hj) t ht
          omega

section Targets

variable (k : UInt32) (jt jf : UInt8)

@[simp] theorem targets_ld : (stmt ldWAbs k).targets = [] := rfl
@[simp] theorem targets_ret : (stmt retK k).targets = [] := rfl
@[simp] theorem targets_jeq : (jump jmpJeqK k jt jf).targets = [jt.toNat, jf.toNat] := rfl
@[simp] theorem targets_jset : (jump jmpJsetK k jt jf).targets = [jt.toNat, jf.toNat] := rfl

end Targets

/-! ## Guarded returns -/

/-- One test of a guarded return: load the word at `off`; the test passes when
it is `k`, or, for a mask, when it shares no bit with `k`. -/
structure Check where
  off : UInt32
  mask : Bool
  k : UInt32
  deriving DecidableEq, Repr

def Check.pass (c : Check) (word : UInt32) : Prop :=
  if c.mask then word &&& c.k = 0 else word = c.k

instance (c : Check) (word : UInt32) : Decidable (c.pass word) := by
  unfold Check.pass; infer_instance

/-- The instructions of a check; a failed check skips `exit` instructions. -/
def Check.code (c : Check) (exit : UInt8) : List SockFilter :=
  if c.mask then [stmt ldWAbs c.off, jump jmpJsetK c.k exit 0]
  else [stmt ldWAbs c.off, jump jmpJeqK c.k 0 exit]

@[simp] theorem Check.length_code (c : Check) (exit : UInt8) : (c.code exit).length = 2 := by
  unfold Check.code; split <;> rfl

/-- The row of checks in front of a `RET`; every failing check leaves for the
instruction behind the `RET`. -/
def guardCode : List Check → List SockFilter
  | [] => []
  | c :: cs => c.code (UInt8.ofNat (2 * cs.length + 1)) ++ guardCode cs

@[simp] theorem length_guardCode (cs : List Check) : (guardCode cs).length = 2 * cs.length := by
  induction cs with
  | nil => rfl
  | cons c cs ih => simp only [guardCode, List.length_append, Check.length_code, ih,
      List.length_cons]; omega

theorem exec_check {load : UInt32 → Option UInt32} (c : Check) (exit : UInt8) {word : UInt32}
    (a : UInt32) (rest : List SockFilter) (h : load c.off = some word) :
    exec load 0 a (c.code exit ++ rest) =
      exec load (if c.pass word then 0 else exit.toNat) word rest := by
  unfold Check.code Check.pass
  by_cases hm : c.mask = true
  · simp only [hm, if_true, List.cons_append, List.nil_append]
    rw [exec_ld h, exec_jset]
    by_cases hz : word &&& c.k = 0 <;> simp [hz]
  · simp only [hm, Bool.false_eq_true, if_false, List.cons_append, List.nil_append]
    rw [exec_ld h, exec_jeq]
    by_cases hz : word = c.k <;> simp [hz]

/-- A guarded return answers `v` when every check passes; otherwise it goes on
behind the `RET`, with the accumulator overwritten. -/
theorem exec_guardCode {load : UInt32 → Option UInt32} (word : Check → UInt32) (v : UInt32)
    (rest : List SockFilter) (cs : List Check) (a : UInt32)
    (hload : ∀ c ∈ cs, load c.off = some (word c)) (hlen : cs.length < 128) :
    ((∀ c ∈ cs, c.pass (word c)) → exec load 0 a (guardCode cs ++ stmt retK v :: rest) = some v) ∧
      (¬(∀ c ∈ cs, c.pass (word c)) →
        ∃ a', exec load 0 a (guardCode cs ++ stmt retK v :: rest) = exec load 0 a' rest) := by
  induction cs generalizing a with
  | nil => simp [guardCode, exec_ret]
  | cons c cs ih =>
      have hc := hload c (by simp)
      have hcs : cs.length < 128 := by simp only [List.length_cons] at hlen; omega
      obtain ⟨hall, hsome⟩ := ih (word c) (fun d hd => hload d (by simp [hd])) hcs
      simp only [guardCode, List.append_assoc]
      rw [exec_check c _ a _ hc]
      by_cases hp : c.pass (word c)
      · simp only [hp, if_true, List.forall_mem_cons, true_and]
        exact ⟨hall, hsome⟩
      · -- the failing check skips the remaining checks and the `RET`
        have hexit : (UInt8.ofNat (2 * cs.length + 1)).toNat =
            (guardCode cs ++ [stmt retK v]).length := by
          simp only [UInt8.toNat_ofNat', List.length_append, length_guardCode,
            List.length_singleton]
          omega
        have hout : exec load (UInt8.ofNat (2 * cs.length + 1)).toNat (word c)
            (guardCode cs ++ stmt retK v :: rest) = exec load 0 (word c) rest := by
          have := exec_skip_append load (word c) rest hexit
          simpa using this
        simp only [hp, if_false, List.forall_mem_cons, false_and, not_false_eq_true,
          false_implies, true_and, true_implies]
        exact ⟨word c, hout⟩

theorem jumpsWithin_checkCode (c : Check) (exit : UInt8) (slack : Nat)
    (h : exit.toNat < slack) : JumpsWithin slack (c.code exit) := by
  unfold Check.code
  split
  · refine ⟨by simp, fun t ht => ?_, trivial⟩
    simp only [targets_jset, List.mem_cons, List.not_mem_nil, or_false] at ht
    rcases ht with rfl | rfl <;> simp <;> omega
  · refine ⟨by simp, fun t ht => ?_, trivial⟩
    simp only [targets_jeq, List.mem_cons, List.not_mem_nil, or_false] at ht
    rcases ht with rfl | rfl <;> simp <;> omega

theorem jumpsWithin_guardCode (cs : List Check) (hlen : cs.length < 128) :
    JumpsWithin 2 (guardCode cs) := by
  induction cs with
  | nil => trivial
  | cons c cs ih =>
      simp only [List.length_cons] at hlen
      apply JumpsWithin.append _ (ih (by omega))
      apply jumpsWithin_checkCode
      simp only [UInt8.toNat_ofNat', length_guardCode]
      omega

end Vsftpd.Lib.Bpf
