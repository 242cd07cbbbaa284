import Mathlib.Data.Nat.ModEq

/-!
# Memory in pages

An address space as a table of pages, and the three system calls that map, protect and
unmap them.  A call acts on whole pages; a length that ends within a page counts that page.
-/

namespace Vsftpd.Lib.Pages

inductive Prot where
  | none
  | readOnly
  | readWrite
  deriving DecidableEq, Repr

/-- The protection of each page; a page that is not mapped has none. -/
abbrev Space := Nat → Option Prot

def Space.put (space : Space) (first n : Nat) (v : Option Prot) : Space :=
  fun i => if first ≤ i ∧ i < first + n then v else space i

/-- How many pages `len` bytes take up. -/
def pagesFor (pageSize len : Nat) : Nat := (len + pageSize - 1) / pageSize

/-- Where the system puts a mapping of so many pages, when it finds room. -/
structure Placement where
  place : Space → Nat → Option Nat
  pos : ∀ space n i, place space n = some i → 0 < i
  free : ∀ space n i, place space n = some i → ∀ j, i ≤ j → j < i + n → space j = .none

/-- The address of a new mapping. -/
def mmap (sys : Placement) (pageSize len : Nat) (space : Space) : Option (Nat × Space) :=
  if len = 0 then .none
  else (sys.place space (pagesFor pageSize len)).map fun i =>
    (i * pageSize, space.put i (pagesFor pageSize len) (some .readWrite))

def mprotect (pageSize addr len : Nat) (prot : Prot) (space : Space) : Option Space :=
  if addr % pageSize = 0 ∧
      ∀ j < pagesFor pageSize len, (space (addr / pageSize + j)).isSome = true then
    some (space.put (addr / pageSize) (pagesFor pageSize len) (some prot))
  else .none

def munmap (pageSize addr len : Nat) (space : Space) : Option Space :=
  if addr % pageSize = 0 ∧ 0 < len then
    some (space.put (addr / pageSize) (pagesFor pageSize len) .none)
  else .none

section
variable {space : Space} {first n i : Nat} {v : Option Prot}

theorem put_inside (hlo : first ≤ i) (hhi : i < first + n) : space.put first n v i = v :=
  if_pos ⟨hlo, hhi⟩

theorem put_outside (h : i < first ∨ first + n ≤ i) : space.put first n v i = space i := by
  apply if_neg
  omega

end

section
variable {pageSize addr len n : Nat} {space : Space}

theorem pagesFor_mul (h : 0 < pageSize) (n : Nat) : pagesFor pageSize (n * pageSize) = n := by
  have hlast : n * pageSize + pageSize - 1 = pageSize - 1 + pageSize * n := by
    rw [Nat.mul_comm]
    omega
  unfold pagesFor
  rw [hlast, Nat.add_mul_div_left _ _ h, Nat.div_eq_of_lt (Nat.sub_lt h Nat.one_pos),
    Nat.zero_add]

theorem pagesFor_self (h : 0 < pageSize) : pagesFor pageSize pageSize = 1 := by
  have hone := pagesFor_mul h 1
  rwa [Nat.one_mul] at hone

theorem mmap_eq_some {sys : Placement} {space' : Space}
    (h : mmap sys pageSize len space = some (addr, space')) :
    0 < len ∧ ∃ i, sys.place space (pagesFor pageSize len) = some i ∧ addr = i * pageSize ∧
      space' = space.put i (pagesFor pageSize len) (some .readWrite) := by
  unfold mmap at h
  split_ifs at h with hzero
  obtain ⟨i, hplace, hi⟩ := Option.map_eq_some_iff.mp h
  cases hi
  exact ⟨Nat.pos_of_ne_zero hzero, i, hplace, rfl, rfl⟩

theorem mprotect_eq_some {prot : Prot} {space' : Space}
    (h : mprotect pageSize addr len prot space = some space') :
    addr % pageSize = 0 ∧
      space' = space.put (addr / pageSize) (pagesFor pageSize len) (some prot) := by
  unfold mprotect at h
  split_ifs at h with hok
  cases h
  exact ⟨hok.1, rfl⟩

/-- Page `i` made inaccessible, or accessible. -/
theorem mprotect_page (hpage : 0 < pageSize) {i : Nat} (hi : (space i).isSome = true)
    (prot : Prot) :
    mprotect pageSize (i * pageSize) pageSize prot space = some (space.put i 1 (some prot)) := by
  unfold mprotect
  rw [Nat.mul_mod_left, Nat.mul_div_cancel _ hpage, pagesFor_self hpage, if_pos]
  refine ⟨rfl, fun j hj => ?_⟩
  rw [Nat.lt_one_iff.mp hj]
  exact hi

end

end Vsftpd.Lib.Pages
