import Vsftpd.Lib.TextSearch

/-!
# Glob patterns

Patterns with the two wildcards and groups of alternatives that do not nest.
`Matches` is the usual meaning of a pattern without groups, and `expansions`
lists the patterns without groups that a pattern stands for.
-/

namespace Vsftpd.Lib.Glob

variable {α : Type}

inductive Elem (α : Type) where
  | lit (c : α)
  | any
  | star
  deriving DecidableEq, Repr

inductive Item (α : Type) where
  | elem (e : Elem α)
  | group (first : List (Elem α)) (others : List (List (Elem α)))
  deriving Repr

inductive Matches : List (Elem α) → List α → Prop
  | nil : Matches [] []
  | lit {p s} (c : α) (h : Matches p s) : Matches (.lit c :: p) (c :: s)
  | any {p s} (c : α) (h : Matches p s) : Matches (.any :: p) (c :: s)
  | starNil {p s} (h : Matches p s) : Matches (.star :: p) s
  | starCons {p s} (c : α) (h : Matches (.star :: p) s) : Matches (.star :: p) (c :: s)

def expansions : List (Item α) → List (List (Elem α))
  | [] => [[]]
  | .elem e :: p => (expansions p).map fun q => e :: q
  | .group first others :: p =>
      (first :: others).flatMap fun a => (expansions p).map fun q => a ++ q

/-- A pattern as the text it begins with and the pattern that follows. -/
def leadingText : List (Item α) → List α × List (Item α)
  | .elem (.lit c) :: p => (c :: (leadingText p).1, (leadingText p).2)
  | p => ([], p)

theorem leadingText_append (p : List (Item α)) :
    (leadingText p).1.map (fun c => Item.elem (.lit c)) ++ (leadingText p).2 = p := by
  induction p with
  | nil => rfl
  | cons i p ih =>
      match i with
      | .elem (.lit c) => rw [leadingText, List.map_cons, List.cons_append, ih]
      | .elem .any => rfl
      | .elem .star => rfl
      | .group _ _ => rfl

/-- What follows the leading text does not begin with a literal. -/
theorem leadingText_rest {p rest : List (Item α)} {c : α} :
    (leadingText p).2 ≠ .elem (.lit c) :: rest := by
  induction p with
  | nil => simp [leadingText]
  | cons i p ih =>
      match i with
      | .elem (.lit d) => rwa [leadingText]
      | .elem .any => simp [leadingText]
      | .elem .star => simp [leadingText]
      | .group _ _ => simp [leadingText]

theorem matches_star {p : List (Elem α)} {s : List α} :
    Matches (.star :: p) s ↔ ∃ pre post, s = pre ++ post ∧ Matches p post := by
  constructor
  · intro h
    generalize hq : Elem.star :: p = q at h
    induction h with
    | nil => cases hq
    | lit _ _ _ => cases hq
    | any _ _ _ => cases hq
    | starNil h _ =>
        cases hq
        exact ⟨[], _, rfl, h⟩
    | starCons c h ih =>
        obtain ⟨pre, post, heq, hpost⟩ := ih hq
        exact ⟨c :: pre, post, by rw [heq, List.cons_append], hpost⟩
  · rintro ⟨pre, post, rfl, h⟩
    induction pre with
    | nil => exact .starNil h
    | cons c pre ih => exact .starCons c ih

end Vsftpd.Lib.Glob
