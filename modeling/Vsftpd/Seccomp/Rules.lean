import Mathlib.Data.List.Basic
import Mathlib.Algebra.Group.Nat.Defs

/-!
# The system call rule table

`seccompsandbox.c` collects its rules in eight arrays that share the index
`s_syscall_index`, plus one counter for each number of argument checks.  A
helper writes the entry at the index once, then advances it, so the arrays up
to the index are a list of rows; a column a helper does not write keeps the
zero of a static array.
-/

namespace Vsftpd.Seccomp

def kMaxSyscalls : Nat := 100

/-- One index of `s_syscalls`, `s_errnos`, `s_args_*` and `s_vals_*`. -/
structure Row where
  syscall : Int32
  errno : Int32 := 0
  args1 : Int32 := 0
  vals1 : Int32 := 0
  args2 : Int32 := 0
  vals2 : Int32 := 0
  args3 : Int32 := 0
  vals3 : Int32 := 0
  deriving DecidableEq, Repr

structure Table where
  rows : List Row := []
  oneArgValidations : Nat := 0
  twoArgValidations : Nat := 0
  threeArgValidations : Nat := 0
  deriving DecidableEq, Repr

def Table.syscallIndex (t : Table) : Nat := t.rows.length

def Table.push (t : Table) (r : Row) : Table := { t with rows := t.rows ++ [r] }

/-! ## The helpers

An `Except.error` is a call of `bug()` with that text. -/

/-- The two tests every helper starts with. -/
def checkSpaceAndNr (t : Table) (nr : Int32) : Except String Unit :=
  if t.syscallIndex ≥ kMaxSyscalls then .error "out of syscall space"
  else if nr < 0 then .error "negative syscall"
  else .ok ()

def checkArg (arg : Int32) (text : String) : Except String Unit :=
  if arg < 1 ∨ arg > 6 then .error text else .ok ()

def allowNr (t : Table) (nr : Int32) : Except String Table := do
  checkSpaceAndNr t nr
  return t.push { syscall := nr }

def rejectNr (t : Table) (nr errcode : Int32) : Except String Table := do
  checkSpaceAndNr t nr
  if errcode < 0 ∨ errcode > 255 then .error "bad errcode"
  return t.push { syscall := nr, errno := errcode }

def allowNr1ArgMatch (t : Table) (nr arg val : Int32) : Except String Table := do
  checkSpaceAndNr t nr
  checkArg arg "arg out of range"
  return { t.push { syscall := nr, args1 := arg, vals1 := val } with
    oneArgValidations := t.oneArgValidations + 1 }

def allowNr1ArgMask (t : Table) (nr arg val : Int32) : Except String Table := do
  checkSpaceAndNr t nr
  checkArg arg "arg out of range"
  return { t.push { syscall := nr, args1 := 100 + arg, vals1 := val } with
    oneArgValidations := t.oneArgValidations + 1 }

def allowNr2ArgMatch (t : Table) (nr arg1 val1 arg2 val2 : Int32) : Except String Table := do
  checkSpaceAndNr t nr
  checkArg arg1 "arg1 out of range"
  checkArg arg2 "arg2 out of range"
  return { t.push { syscall := nr, args1 := arg1, vals1 := val1, args2 := arg2, vals2 := val2 } with
    twoArgValidations := t.twoArgValidations + 1 }

def allowNr2ArgMaskMatch (t : Table) (nr arg1 val1 arg2 val2 : Int32) :
    Except String Table := do
  checkSpaceAndNr t nr
  checkArg arg1 "arg1 out of range"
  checkArg arg2 "arg2 out of range"
  return { t.push { syscall := nr, args1 := 100 + arg1, vals1 := val1,
                    args2 := arg2, vals2 := val2 } with
    twoArgValidations := t.twoArgValidations + 1 }

def allowNr3ArgMatch (t : Table) (nr arg1 val1 arg2 val2 arg3 val3 : Int32) :
    Except String Table := do
  checkSpaceAndNr t nr
  checkArg arg1 "arg1 out of range"
  checkArg arg2 "arg2 out of range"
  checkArg arg3 "arg3 out of range"
  return { t.push { syscall := nr, args1 := arg1, vals1 := val1, args2 := arg2, vals2 := val2,
                    args3 := arg3, vals3 := val3 } with
    threeArgValidations := t.threeArgValidations + 1 }

/-! ## Sequences of calls -/

/-- A call of one of the helpers. -/
inductive Call where
  | allow (nr : Int32)
  | reject (nr errcode : Int32)
  | oneMatch (nr arg val : Int32)
  | oneMask (nr arg val : Int32)
  | twoMatch (nr arg1 val1 arg2 val2 : Int32)
  | twoMaskMatch (nr arg1 val1 arg2 val2 : Int32)
  | threeMatch (nr arg1 val1 arg2 val2 arg3 val3 : Int32)
  deriving DecidableEq, Repr

def Call.apply (t : Table) : Call → Except String Table
  | .allow nr => allowNr t nr
  | .reject nr errcode => rejectNr t nr errcode
  | .oneMatch nr arg val => allowNr1ArgMatch t nr arg val
  | .oneMask nr arg val => allowNr1ArgMask t nr arg val
  | .twoMatch nr arg1 val1 arg2 val2 => allowNr2ArgMatch t nr arg1 val1 arg2 val2
  | .twoMaskMatch nr arg1 val1 arg2 val2 => allowNr2ArgMaskMatch t nr arg1 val1 arg2 val2
  | .threeMatch nr arg1 val1 arg2 val2 arg3 val3 =>
    allowNr3ArgMatch t nr arg1 val1 arg2 val2 arg3 val3

/-- The helpers called one after the other on the empty table. -/
def buildTable (calls : List Call) : Except String Table :=
  calls.foldlM Call.apply {}

def Call.nr : Call → Int32
  | .allow nr | .reject nr _ | .oneMatch nr _ _ | .oneMask nr _ _ | .twoMatch nr _ _ _ _
  | .twoMaskMatch nr _ _ _ _ | .threeMatch nr _ _ _ _ _ _ => nr

/-- What a rule asks of an argument: its value, or that it has no bit outside a
mask. -/
inductive Constraint where
  | equals (arg val : Int32)
  | within (arg mask : Int32)
  deriving DecidableEq, Repr

def Constraint.arg : Constraint → Int32
  | .equals arg _ | .within arg _ => arg

def Call.constraints : Call → List Constraint
  | .allow _ | .reject _ _ => []
  | .oneMatch _ arg val => [.equals arg val]
  | .oneMask _ arg val => [.within arg val]
  | .twoMatch _ arg1 val1 arg2 val2 => [.equals arg1 val1, .equals arg2 val2]
  | .twoMaskMatch _ arg1 val1 arg2 val2 => [.within arg1 val1, .equals arg2 val2]
  | .threeMatch _ arg1 val1 arg2 val2 arg3 val3 =>
    [.equals arg1 val1, .equals arg2 val2, .equals arg3 val3]

def Call.errcodes : Call → List Int32
  | .reject _ errcode => [errcode]
  | _ => []

/-- The row a successful call appends. -/
def Call.row : Call → Row
  | .allow nr => { syscall := nr }
  | .reject nr errcode => { syscall := nr, errno := errcode }
  | .oneMatch nr arg val => { syscall := nr, args1 := arg, vals1 := val }
  | .oneMask nr arg val => { syscall := nr, args1 := 100 + arg, vals1 := val }
  | .twoMatch nr arg1 val1 arg2 val2 =>
    { syscall := nr, args1 := arg1, vals1 := val1, args2 := arg2, vals2 := val2 }
  | .twoMaskMatch nr arg1 val1 arg2 val2 =>
    { syscall := nr, args1 := 100 + arg1, vals1 := val1, args2 := arg2, vals2 := val2 }
  | .threeMatch nr arg1 val1 arg2 val2 arg3 val3 =>
    { syscall := nr, args1 := arg1, vals1 := val1, args2 := arg2, vals2 := val2,
      args3 := arg3, vals3 := val3 }

/-- What the helpers admit: a system call number that is not negative, argument
indices from 1 to 6, and, for a rejection, an errno from 1 to 255. -/
structure Call.Admissible (c : Call) : Prop where
  nr : 0 ≤ c.nr
  args : ∀ k ∈ c.constraints, 1 ≤ k.arg ∧ k.arg ≤ 6
  errcode : ∀ e ∈ c.errcodes, 1 ≤ e ∧ e ≤ 255

instance : DecidablePred Call.Admissible := fun c =>
  -- not by trying every `Int32`
  letI : Decidable (∀ e ∈ c.errcodes, 1 ≤ e ∧ e ≤ 255) := List.decidableBAll _ c.errcodes
  decidable_of_iff (0 ≤ c.nr ∧ (∀ k ∈ c.constraints, 1 ≤ k.arg ∧ k.arg ≤ 6) ∧
      ∀ e ∈ c.errcodes, 1 ≤ e ∧ e ≤ 255)
    ⟨fun ⟨hnr, hargs, herr⟩ => ⟨hnr, hargs, herr⟩, fun ⟨hnr, hargs, herr⟩ => ⟨hnr, hargs, herr⟩⟩

/-- How a successful call moves the table. -/
def Call.record (t : Table) (c : Call) : Table where
  rows := t.rows ++ [c.row]
  oneArgValidations := t.oneArgValidations + if c.constraints.length = 1 then 1 else 0
  twoArgValidations := t.twoArgValidations + if c.constraints.length = 2 then 1 else 0
  threeArgValidations := t.threeArgValidations + if c.constraints.length = 3 then 1 else 0

private theorem checkSpaceAndNr_ok {t : Table} {nr : Int32} (hspace : t.syscallIndex < kMaxSyscalls)
    (hnr : 0 ≤ nr) : checkSpaceAndNr t nr = .ok () := by
  unfold checkSpaceAndNr
  rw [if_neg (by omega), if_neg (Int32.not_lt.mpr hnr)]

private theorem checkArg_ok {arg : Int32} {text : String} (h : 1 ≤ arg ∧ arg ≤ 6) :
    checkArg arg text = .ok () := by
  unfold checkArg
  rw [if_neg]
  rintro (hlo | hhi)
  · exact Int32.not_lt.mpr h.1 hlo
  · exact Int32.not_lt.mpr h.2 hhi

/-- An admitted call succeeds while the table has space. -/
theorem Call.apply_ok {t : Table} {c : Call} (h : c.Admissible)
    (hspace : t.syscallIndex < kMaxSyscalls) : c.apply t = .ok (c.record t) := by
  have hnr := checkSpaceAndNr_ok hspace h.nr
  have harg : ∀ k ∈ c.constraints, ∀ text, checkArg k.arg text = .ok () :=
    fun k hk text => checkArg_ok (h.args k hk)
  cases c with
  | allow nr =>
      simp only [Call.nr] at hnr
      simp only [Call.apply, allowNr, hnr]
      rfl
  | reject nr e =>
      obtain ⟨hlo, hhi⟩ := h.errcode e (by simp [Call.errcodes])
      have hpos : ¬ e < 0 := Int32.not_lt.mpr (Int32.le_trans (by decide) hlo)
      have hbig : ¬ e > 255 := Int32.not_lt.mpr hhi
      simp only [Call.nr] at hnr
      simp only [Call.apply, rejectNr, hnr, hpos, hbig, or_self, if_false]
      rfl
  | oneMatch nr arg val =>
      simp only [Call.nr, Call.constraints, List.forall_mem_cons, Constraint.arg] at hnr harg
      simp only [Call.apply, allowNr1ArgMatch, hnr, harg.1]
      rfl
  | oneMask nr arg val =>
      simp only [Call.nr, Call.constraints, List.forall_mem_cons, Constraint.arg] at hnr harg
      simp only [Call.apply, allowNr1ArgMask, hnr, harg.1]
      rfl
  | twoMatch nr arg1 val1 arg2 val2 =>
      simp only [Call.nr, Call.constraints, List.forall_mem_cons, Constraint.arg] at hnr harg
      simp only [Call.apply, allowNr2ArgMatch, hnr, harg.1, harg.2.1]
      rfl
  | twoMaskMatch nr arg1 val1 arg2 val2 =>
      simp only [Call.nr, Call.constraints, List.forall_mem_cons, Constraint.arg] at hnr harg
      simp only [Call.apply, allowNr2ArgMaskMatch, hnr, harg.1, harg.2.1]
      rfl
  | threeMatch nr arg1 val1 arg2 val2 arg3 val3 =>
      simp only [Call.nr, Call.constraints, List.forall_mem_cons, Constraint.arg] at hnr harg
      simp only [Call.apply, allowNr3ArgMatch, hnr, harg.1, harg.2.1, harg.2.2.1]
      rfl

/-! ## The table after a sequence of calls -/

def argsCount (calls : List Call) (n : Nat) : Nat :=
  calls.countP fun c => c.constraints.length = n

/-- The table of the calls: their rows, and the number of calls with one, two
and three checked arguments. -/
def tableOf (calls : List Call) : Table where
  rows := calls.map Call.row
  oneArgValidations := argsCount calls 1
  twoArgValidations := argsCount calls 2
  threeArgValidations := argsCount calls 3

theorem record_tableOf (calls : List Call) (c : Call) :
    c.record (tableOf calls) = tableOf (calls ++ [c]) := by
  simp [Call.record, tableOf, argsCount, List.countP_append, List.countP_singleton]

theorem foldlM_apply (calls done : List Call) (hadm : ∀ c ∈ calls, c.Admissible)
    (hlen : (done ++ calls).length ≤ kMaxSyscalls) :
    calls.foldlM Call.apply (tableOf done) = .ok (tableOf (done ++ calls)) := by
  induction calls generalizing done with
  | nil => simp [pure, Except.pure]
  | cons c calls ih =>
      have hspace : (tableOf done).syscallIndex < kMaxSyscalls := by
        simp only [List.length_append, List.length_cons] at hlen
        simp only [Table.syscallIndex, tableOf, List.length_map]
        omega
      rw [List.foldlM_cons, Call.apply_ok (hadm c (by simp)) hspace, record_tableOf]
      have hrest := ih (done ++ [c]) (fun d hd => hadm d (by simp [hd])) (by simpa using hlen)
      simpa [bind, Except.bind] using hrest

theorem buildTable_ok {calls : List Call} (hadm : ∀ c ∈ calls, c.Admissible)
    (hlen : calls.length ≤ kMaxSyscalls) : buildTable calls = .ok (tableOf calls) :=
  foldlM_apply calls [] hadm hlen

end Vsftpd.Seccomp
