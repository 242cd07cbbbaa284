import Mathlib.Logic.Function.Basic

/-!
# The last write counts

Variables of any types, stores that give each its value, and lists of writes.  A store after
a list of writes gives a variable what was written to it last.
-/

namespace Vsftpd.Lib

/-- A variable and the value that is written to it. -/
abbrev Write {ι : Type} (V : ι → Type) := (x : ι) × V x

variable {ι : Type} [DecidableEq ι] {V : ι → Type}

/-- What a write says of a variable. -/
def Write.to (w : Write V) (x : ι) : Option (V x) :=
  if h : w.1 = x then some (h ▸ w.2) else none

/-- What the last write to a variable says, if there is one. -/
def lastWrite : List (Write V) → (x : ι) → Option (V x)
  | [], _ => none
  | w :: ws, x => (lastWrite ws x).or (w.to x)

def writeAll (ws : List (Write V)) (t : ∀ x, V x) : ∀ x, V x :=
  ws.foldl (fun t w => Function.update t w.1 w.2) t

@[simp] theorem writeAll_nil (t : ∀ x, V x) : writeAll [] t = t := rfl

@[simp] theorem writeAll_cons (w : Write V) (ws : List (Write V)) (t : ∀ x, V x) :
    writeAll (w :: ws) t = writeAll ws (Function.update t w.1 w.2) := rfl

theorem update_apply_eq (w : Write V) (t : ∀ x, V x) (x : ι) :
    Function.update t w.1 w.2 x = (w.to x).getD (t x) := by
  obtain ⟨y, v⟩ := w
  unfold Write.to
  by_cases h : y = x
  · subst h
    rw [Function.update_self, dif_pos rfl]
    rfl
  · rw [Function.update_of_ne (Ne.symm h), dif_neg h]
    rfl

theorem writeAll_apply (ws : List (Write V)) (t : ∀ x, V x) (x : ι) :
    writeAll ws t x = (lastWrite ws x).getD (t x) := by
  induction ws generalizing t with
  | nil => rfl
  | cons w ws ih =>
      rw [writeAll_cons, ih, update_apply_eq, lastWrite]
      cases lastWrite ws x with
      | none => rw [Option.none_or, Option.getD_none]
      | some v => rw [Option.some_or, Option.getD_some, Option.getD_some]

end Vsftpd.Lib
