import Mathlib.Data.List.Pairwise
import Mathlib.Data.List.Sort

/-!
# Sorting by a key

A list that is sorted by a key stands in an order of another kind exactly when the keys
put no two of its elements the other way.
-/

namespace Vsftpd.Lib

open Std (TransOrd OrientedOrd)

variable {α β : Type} [Ord β] {key : α → β} {reverse : Bool} {R : α → α → Prop} {l : List α}

/-- The comparison of two elements by their keys. -/
def keyCompare (key : α → β) (reverse : Bool) (a b : α) : Ordering :=
  if reverse then compare (key b) (key a) else compare (key a) (key b)

def sortByKey (key : α → β) (reverse : Bool) (l : List α) : List α :=
  l.insertionSort fun a b => (keyCompare key reverse a b).isLE

theorem perm_sortByKey : (sortByKey key reverse l).Perm l :=
  List.perm_insertionSort _ l

/-- Sorting comes to the same before and after a map that keeps the keys. -/
theorem map_sortByKey {γ : Type} (key' : γ → β) (f : α → γ) (h : ∀ a ∈ l, key a = key' (f a)) :
    (sortByKey key reverse l).map f = sortByKey key' reverse (l.map f) := by
  apply List.map_insertionSort
  intro a ha b hb
  unfold keyCompare
  rw [h a ha, h b hb]

theorem mem_sortByKey {a : α} : a ∈ sortByKey key reverse l ↔ a ∈ l :=
  perm_sortByKey.mem_iff

section
variable [TransOrd β]

theorem keyCompare_swap (a b : α) :
    keyCompare key reverse a b = (keyCompare key reverse b a).swap := by
  cases reverse with
  | false => exact OrientedOrd.eq_swap
  | true => exact OrientedOrd.eq_swap

theorem keyCompare_trans {a b c : α} (hab : (keyCompare key reverse a b).isLE)
    (hbc : (keyCompare key reverse b c).isLE) : (keyCompare key reverse a c).isLE := by
  cases reverse with
  | false => exact TransOrd.isLE_trans hab hbc
  | true => exact TransOrd.isLE_trans hbc hab

theorem pairwise_sortByKey (key : α → β) (reverse : Bool) (l : List α) :
    (sortByKey key reverse l).Pairwise fun a b => (keyCompare key reverse a b).isLE := by
  have htotal : Std.Total fun a b => (keyCompare key reverse a b).isLE = true := by
    constructor
    intro a b
    rw [keyCompare_swap b a]
    cases keyCompare key reverse a b <;> decide
  have htrans : IsTrans α fun a b => (keyCompare key reverse a b).isLE = true :=
    ⟨fun _ _ _ => keyCompare_trans⟩
  exact List.pairwise_insertionSort _ l

/-- One of two elements stands before the other. -/
theorem rel_or_rel {a b : α} (h : l.Pairwise R) (ha : a ∈ l) (hb : b ∈ l) (hne : a ≠ b) :
    R a b ∨ R b a := by
  have hsymm : Std.Symm fun a b => R a b ∨ R b a := ⟨fun _ _ => Or.symm⟩
  have heither : l.Pairwise fun a b => R a b ∨ R b a := h.imp Or.inl
  exact heither.forall ha hb hne

/-- Elements with one key may stand either way. -/
theorem pairwise_sortByKey_iff (hl : l.Nodup)
    (htie : ∀ a ∈ l, ∀ b ∈ l, a ≠ b → keyCompare key reverse a b = .eq → R a b) :
    (sortByKey key reverse l).Pairwise R ↔
      ∀ a ∈ l, ∀ b ∈ l, keyCompare key reverse a b = .lt → R a b := by
  have hsorted := pairwise_sortByKey key reverse l
  constructor
  · intro hR a ha b hb hlt
    have hswap : keyCompare key reverse b a = .gt := by
      rw [keyCompare_swap, hlt]
      rfl
    have hne : a ≠ b := by
      rintro rfl
      rw [hlt] at hswap
      exact absurd hswap (by decide)
    -- `b` does not stand before `a`, for their keys do not
    rcases rel_or_rel (hsorted.and hR) (mem_sortByKey.mpr ha) (mem_sortByKey.mpr hb) hne with h | h
    · exact h.2
    · have hle := h.1
      rw [hswap] at hle
      exact absurd hle (by decide)
  · intro h
    have hdistinct : (sortByKey key reverse l).Nodup := perm_sortByKey.nodup_iff.mpr hl
    refine (hsorted.and hdistinct).imp_of_mem fun {a b} ha hb hab => ?_
    rw [mem_sortByKey] at ha hb
    cases hcompare : keyCompare key reverse a b with
    | lt => exact h a ha b hb hcompare
    | eq => exact htie a ha b hb hab.2 hcompare
    | gt =>
        have hle := hab.1
        rw [hcompare] at hle
        exact absurd hle (by decide)

end

/-- Comparing texts is putting them in the order of a dictionary. -/
theorem compare_eq_lt_iff [LT β] [Std.LawfulEqOrd β] (hlt : ∀ a b : β, compare a b = .lt ↔ a < b)
    (s t : List β) : compare s t = .lt ↔ s < t := by
  induction s generalizing t with
  | nil => cases t <;> simp
  | cons a s ih =>
      cases t with
      | nil => simp
      | cons b t =>
          rw [List.compare_cons_cons, List.cons_lt_cons_iff, ← hlt, ← ih]
          cases hcompare : compare a b with
          | lt => simp
          | eq => simp [Std.LawfulEqOrd.eq_of_compare hcompare]
          | gt =>
              have hne : a ≠ b := by
                rintro rfl
                exact absurd (Std.ReflOrd.compare_self.symm.trans hcompare) (by decide)
              simp [hne]

/-- Elements that compare alike make lists that compare alike. -/
theorem compare_map {γ : Type} [Ord γ] {f : β → γ} {s t : List β}
    (h : ∀ a ∈ s, ∀ b ∈ t, compare (f a) (f b) = compare a b) :
    compare (s.map f) (t.map f) = compare s t := by
  induction s generalizing t with
  | nil => cases t <;> rfl
  | cons a s ih =>
      cases t with
      | nil => rfl
      | cons b t =>
          rw [List.map_cons, List.map_cons, List.compare_cons_cons, List.compare_cons_cons,
            h a List.mem_cons_self b List.mem_cons_self,
            ih fun x hx y hy => h x (List.mem_cons_of_mem a hx) y (List.mem_cons_of_mem b hy)]

end Vsftpd.Lib
