import Mathlib.Logic.Function.Basic
import Mathlib.Data.List.Basic

/-!
# Checked array pointers

The run-time meaning of Checked C's `_Array_ptr`: a value that is null or an
address inside a block of memory, held in a variable with declared bounds.  An
access through it, and a dynamic bounds cast, first check the bounds and stop
the program when the check fails.

Blocks are named by a type `B`; nothing is assumed about how they are laid out,
and two pointers alias exactly when they name the same block.
-/

namespace Vsftpd.Lib.CheckedC

variable {B : Type}

/-- The bytes of every block, by offset. -/
abbrev Mem (B : Type) := B → Int → UInt8

/-- A computation on memory that a failed check may stop (`none`). -/
abbrev Checked (B : Type) := StateT (Mem B) Option

structure ArrayPtr (B : Type) where
  /-- Block and offset; `none` is the null pointer. -/
  addr : Option (B × Int)
  /-- The declared bounds, as offsets into the block: from `lo` up to `hi`. -/
  lo : Int
  hi : Int

namespace ArrayPtr

def null : ArrayPtr B := ⟨none, 0, 0⟩

/-- A fresh pointer to the start of a block of `n` bytes. -/
def start (b : B) (n : Int) : ArrayPtr B := ⟨some (b, 0), 0, n⟩

def add (p : ArrayPtr B) (n : Int) : ArrayPtr B :=
  { p with addr := p.addr.map fun a => (a.1, a.2 + n) }

/-- The value of `p` in a variable declared `bounds(q + lo, q + hi)`. -/
def declared (p q : ArrayPtr B) (lo hi : Int) : ArrayPtr B :=
  match q.addr with
  | none => { p with lo := 0, hi := 0 }
  | some (_, off) => { p with lo := off + lo, hi := off + hi }

def load (p : ArrayPtr B) (i : Int) : Checked B UInt8 := fun m =>
  match p.addr with
  | none => none
  | some (b, off) => if p.lo ≤ off + i ∧ off + i < p.hi then some (m b (off + i), m) else none

variable [DecidableEq B]

/-- Memory with one byte replaced. -/
def update (m : Mem B) (b : B) (i : Int) (v : UInt8) : Mem B :=
  fun b' j => if b' = b ∧ j = i then v else m b' j

def store (p : ArrayPtr B) (i : Int) (v : UInt8) : Checked B Unit := fun m =>
  match p.addr with
  | none => none
  | some (b, off) =>
    if p.lo ≤ off + i ∧ off + i < p.hi then some ((), update m b (off + i) v) else none

omit [DecidableEq B] in
/-- `_Dynamic_bounds_cast<_Array_ptr<T>>(p, count(n))`: null passes, otherwise
`p`'s own bounds must cover the `n` bytes from `p`. -/
def dynamicBoundsCast (p : ArrayPtr B) (n : Int) : Option (ArrayPtr B) :=
  match p.addr with
  | none => some null
  | some (b, off) =>
    if p.lo ≤ off ∧ off + n ≤ p.hi then some ⟨some (b, off), off, off + n⟩ else none

/-! ## System calls through a pointer -/

/-- The first `n` bytes at `p`, as `write` takes them. -/
def bytes (p : ArrayPtr B) (n : Nat) (m : Mem B) : List UInt8 :=
  match p.addr with
  | none => []
  | some (b, off) => (List.range n).map fun (i : Nat) => m b (off + i)

/-- Memory after `read` has put `bs` at `p`. -/
def fill (p : ArrayPtr B) (bs : List UInt8) (m : Mem B) : Mem B :=
  match p.addr with
  | none => m
  | some (b, off) => fun b' j =>
    if b' = b ∧ off ≤ j ∧ j < off + bs.length then bs.getD (j - off).toNat 0 else m b' j

end ArrayPtr

/-! ## Rules -/

section Rules

variable {α β : Type} {m : Mem B}

@[simp] theorem pure_run (a : α) : (pure a : Checked B α) m = some (a, m) := rfl

theorem bind_run (x : Checked B α) (f : α → Checked B β) :
    (x >>= f) m = (x m).bind fun r => f r.1 r.2 := rfl

/-- A computation that stops stops everything behind it. -/
theorem bind_stop {x : Checked B α} {f : α → Checked B β} (h : x m = none) :
    (x >>= f) m = none := by
  rw [bind_run, h, Option.bind_none]

theorem bind_ok {x : Checked B α} {f : α → Checked B β} {a : α} {m' : Mem B}
    (h : x m = some (a, m')) : (x >>= f) m = f a m' := by
  rw [bind_run, h, Option.bind_some]

end Rules

namespace ArrayPtr

section Loads

variable {m : Mem B} {p : ArrayPtr B} {b : B} {off i : Int}

theorem load_inside (hp : p.addr = some (b, off)) (hlo : p.lo ≤ off + i) (hhi : off + i < p.hi) :
    p.load i m = some (m b (off + i), m) := by
  simp only [load, hp, hlo, hhi, and_self, if_true]

theorem load_outside (hp : p.addr = some (b, off)) (h : p.hi ≤ off + i) : p.load i m = none := by
  have hout : ¬ (p.lo ≤ off + i ∧ off + i < p.hi) := by omega
  simp only [load, hp, hout, if_false]

/-- A load leaves memory as it was. -/
theorem load_mem {v : UInt8} {m' : Mem B} (h : p.load i m = some (v, m')) : m' = m := by
  unfold load at h
  split at h
  · cases h
  · split at h
    · simp only [Option.some.injEq, Prod.mk.injEq] at h
      exact h.2.symm
    · cases h

theorem cast_inside (n : Int) (hp : p.addr = some (b, off)) (hlo : p.lo ≤ off)
    (hhi : off + n ≤ p.hi) : p.dynamicBoundsCast n = some ⟨some (b, off), off, off + n⟩ := by
  simp only [dynamicBoundsCast, hp, hlo, hhi, and_self, if_true]

theorem cast_outside (n : Int) (hp : p.addr = some (b, off)) (h : p.hi < off + n) :
    p.dynamicBoundsCast n = none := by
  have hout : ¬ (p.lo ≤ off ∧ off + n ≤ p.hi) := by omega
  simp only [dynamicBoundsCast, hp, hout, if_false]

end Loads

section Stores

variable [DecidableEq B] {m : Mem B} {p : ArrayPtr B} {b : B} {off i : Int} {v : UInt8}

theorem store_inside (hp : p.addr = some (b, off)) (hlo : p.lo ≤ off + i)
    (hhi : off + i < p.hi) : p.store i v m = some ((), update m b (off + i) v) := by
  simp only [store, hp, hlo, hhi, and_self, if_true]

theorem update_ne {b b' : B} {i j : Int} (h : b' ≠ b ∨ j ≠ i) :
    update m b i v b' j = m b' j := by
  unfold update
  rw [if_neg]
  rintro ⟨hb, hj⟩
  rcases h with h | h
  · exact h hb
  · exact h hj

theorem fill_other {bs : List UInt8} {b' : B} {j : Int} (hp : p.addr = some (b, off))
    (h : b' ≠ b) : p.fill bs m b' j = m b' j := by
  simp [fill, hp, h]

theorem fill_at {bs : List UInt8} {k : Nat} (hp : p.addr = some (b, off)) (hk : k < bs.length) :
    p.fill bs m b (off + k) = bs[k] := by
  have hin : off ≤ off + k ∧ off + k < off + bs.length := by omega
  have hidx : (off + (k : Int) - off).toNat = k := by omega
  simp only [fill, hp, hin, and_self, if_true, hidx]
  rw [List.getD_eq_getElem?_getD, List.getElem?_eq_getElem hk, Option.getD_some]

/-- What was just read is what a write of the same bytes sends. -/
theorem bytes_fill {bs : List UInt8} (hp : p.addr = some (b, off)) :
    p.bytes bs.length (p.fill bs m) = bs := by
  unfold bytes
  simp only [hp]
  apply List.ext_getElem
  · simp
  · intro k hk hk'
    rw [List.getElem_map, List.getElem_range]
    exact fill_at hp hk'

end Stores

end ArrayPtr

end Vsftpd.Lib.CheckedC
