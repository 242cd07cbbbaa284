import Mathlib.Data.List.Basic

/-!
# Transfers in several calls

A transfer of `size` items, made with calls that move fewer than they are asked for, that
fail and are made again, or that fail for good.
-/

namespace Vsftpd.Lib.PartialTransfer

variable {α : Type}

/-- What a call does: it moves at most `n` items, or fails. -/
inductive Answer where
  | moved (n : Nat)
  | failed (errno : Nat)
  deriving DecidableEq, Repr

/-- `waiting` is a transfer that is in need of a further call. -/
inductive Ending where
  | full
  | closed
  | failed
  | waiting
  deriving DecidableEq, Repr

/-- What was moved, what is left of the source, and the answers that were not needed. -/
structure Progress (α : Type) where
  moved : List α
  left : List α
  ending : Ending
  rest : List Answer
  deriving DecidableEq, Repr

/-- Items moved before the others. -/
def Progress.after (items : List α) (p : Progress α) : Progress α :=
  { p with moved := items ++ p.moved }

@[simp] theorem Progress.after_moved (items : List α) (p : Progress α) :
    (p.after items).moved = items ++ p.moved := rfl
@[simp] theorem Progress.after_left (items : List α) (p : Progress α) :
    (p.after items).left = p.left := rfl
@[simp] theorem Progress.after_ending (items : List α) (p : Progress α) :
    (p.after items).ending = p.ending := rfl
@[simp] theorem Progress.after_rest (items : List α) (p : Progress α) :
    (p.after items).rest = p.rest := rfl

/-- What a call moves. -/
def taken (n size : Nat) (source : List α) : List α := source.take (min n size)

/-- The calls are made until the transfer is full, or one of them moves nothing or fails
with an error that is not one of those after which a call is made `again`. -/
def run (again : Nat → Bool) : List Answer → Nat → List α → Progress α
  | [], _, source => ⟨[], source, .waiting, []⟩
  | .failed errno :: rest, size, source =>
    if again errno then run again rest size source else ⟨[], source, .failed, rest⟩
  | .moved n :: rest, size, source =>
    let items := taken n size source
    if items = [] then ⟨[], source, .closed, rest⟩
    else if items.length = size then ⟨items, source.drop items.length, .full, rest⟩
    else (run again rest (size - items.length) (source.drop items.length)).after items

variable {again : Nat → Bool} {answers : List Answer} {n size : Nat} {source : List α}

theorem taken_append_drop (n size : Nat) (source : List α) :
    taken n size source ++ source.drop (taken n size source).length = source := by
  have hdrop : source.drop (taken n size source).length = source.drop (min n size) := by
    rw [List.drop_eq_drop_iff, taken, List.length_take]
    omega
  rw [hdrop, taken, List.take_append_drop]

theorem length_taken_le (n size : Nat) (source : List α) :
    (taken n size source).length ≤ size := by
  unfold taken
  rw [List.length_take]
  omega

/-- Nothing is lost and nothing is moved twice. -/
theorem run_moved_append_left (answers : List Answer) (size : Nat) (source : List α) :
    (run again answers size source).moved ++ (run again answers size source).left = source := by
  induction answers generalizing size source with
  | nil => rfl
  | cons answer rest ih =>
      cases answer with
      | failed errno =>
          rw [run]
          split_ifs
          · exact ih size source
          · rfl
      | moved n =>
          rw [run]
          split_ifs with hnone hfull
          · rfl
          · exact taken_append_drop n size source
          · rw [Progress.after_moved, Progress.after_left, List.append_assoc, ih,
              taken_append_drop]

theorem run_moved_length_le (answers : List Answer) (size : Nat) (source : List α) :
    (run again answers size source).moved.length ≤ size := by
  induction answers generalizing size source with
  | nil => exact Nat.zero_le size
  | cons answer rest ih =>
      cases answer with
      | failed errno =>
          rw [run]
          split_ifs
          · exact ih size source
          · exact Nat.zero_le size
      | moved n =>
          have hle := length_taken_le n size source
          rw [run]
          split_ifs with hnone hfull
          · exact Nat.zero_le size
          · exact hle
          · have hrest := ih (size - (taken n size source).length)
              (source.drop (taken n size source).length)
            rw [Progress.after_moved, List.length_append]
            omega

/-- A transfer is full when everything was moved that was asked for. -/
theorem run_full_iff (hsize : 0 < size) (answers : List Answer) (source : List α) :
    (run again answers size source).ending = .full ↔
      (run again answers size source).moved.length = size := by
  induction answers generalizing size source with
  | nil =>
      show Ending.waiting = .full ↔ 0 = size
      exact iff_of_false (fun h => by cases h) (by omega)
  | cons answer rest ih =>
      cases answer with
      | failed errno =>
          rw [run]
          split_ifs
          · exact ih hsize source
          · exact iff_of_false (fun h => by cases h) (Nat.ne_of_lt hsize)
      | moved n =>
          have hle := length_taken_le n size source
          rw [run]
          split_ifs with hnone hfull
          · exact iff_of_false (fun h => by cases h) (Nat.ne_of_lt hsize)
          · exact iff_of_true rfl hfull
          · rw [Progress.after_ending, Progress.after_moved, ih (by omega), List.length_append]
            omega

/-- What was moved is the beginning of the source, and no more than was asked for. -/
structure Progress.Sound (p : Progress α) (size : Nat) (source : List α) : Prop where
  split : p.moved ++ p.left = source
  within : p.moved.length ≤ size
  full : p.ending = .full ↔ p.moved.length = size

theorem run_sound (hsize : 0 < size) (answers : List Answer) (source : List α) :
    (run again answers size source).Sound size source where
  split := run_moved_append_left answers size source
  within := run_moved_length_le answers size source
  full := run_full_iff hsize answers source

theorem exists_split_cons {β : Type} {P : List β → β → Prop} {b : β} {rest : List β} :
    (∃ pre x post, b :: rest = pre ++ x :: post ∧ P pre x) ↔
      P [] b ∨ ∃ pre x post, rest = pre ++ x :: post ∧ P (b :: pre) x := by
  constructor
  · rintro ⟨pre, x, post, heq, hp⟩
    cases pre with
    | nil =>
        obtain ⟨rfl, -⟩ := List.cons.inj heq
        exact .inl hp
    | cons y pre =>
        obtain ⟨rfl, hrest⟩ := List.cons.inj heq
        exact .inr ⟨pre, x, post, hrest, hp⟩
  · rintro (hp | ⟨pre, x, post, heq, hp⟩)
    · exact ⟨[], b, rest, rfl, hp⟩
    · exact ⟨b :: pre, x, post, by rw [heq, List.cons_append], hp⟩

/-- An error, not in `again`, of a call that is in need. -/
def Refused (again : Nat → Bool) (answers : List Answer) (size : Nat) (source : List α) : Prop :=
  ∃ pre answer post, answers = pre ++ answer :: post ∧
    (run again pre size source).ending = .waiting ∧
      ∃ errno, answer = .failed errno ∧ again errno = false

theorem run_failed_iff (answers : List Answer) (size : Nat) (source : List α) :
    (run again answers size source).ending = .failed ↔ Refused again answers size source := by
  unfold Refused
  induction answers generalizing size source with
  | nil =>
      apply iff_of_false
      · exact fun h => by cases h
      · rintro ⟨pre, answer, post, heq, -⟩
        simp at heq
  | cons answer rest ih =>
      rw [exists_split_cons]
      cases answer with
      | failed errno =>
          by_cases hagain : again errno = true
          · have hfirst : ¬ (((run again [] size source).ending = .waiting) ∧
                ∃ e, Answer.failed errno = .failed e ∧ again e = false) := by
              rintro ⟨-, e, heq, he⟩
              rw [← Answer.failed.inj heq, hagain] at he
              cases he
            rw [or_iff_right hfirst]
            simp only [run, hagain, if_true]
            exact ih size source
          · have hfailed : (run again (.failed errno :: rest) size source).ending = .failed := by
              rw [run, if_neg hagain]
            exact iff_of_true hfailed
              (.inl ⟨rfl, errno, rfl, Bool.eq_false_iff.mpr hagain⟩)
      | moved n =>
          have hfirst : ¬ (((run again [] size source).ending = .waiting) ∧
              ∃ e, Answer.moved n = .failed e ∧ again e = false) := by
            rintro ⟨-, e, heq, -⟩
            cases heq
          rw [or_iff_right hfirst]
          simp only [run]
          split_ifs with hnone hfull
          · exact iff_of_false (fun h => by cases h) fun ⟨_, _, _, _, h, _⟩ => by cases h
          · exact iff_of_false (fun h => by cases h) fun ⟨_, _, _, _, h, _⟩ => by cases h
          · exact ih _ _

end Vsftpd.Lib.PartialTransfer
