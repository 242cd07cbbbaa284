import Mathlib.Data.List.Basic
import Mathlib.Data.List.TakeDrop

/-!
# Terminated texts in a block of memory

A block begins with a text and its terminator; what follows is left over.  Each way
of writing to the block is described by the text it leaves.
-/

namespace Vsftpd.Lib.TextBlock

variable {α : Type} {stop : α} {block text src : List α}

/-- The block begins with the text and the terminator. -/
def Terminated (stop : α) (block text : List α) : Prop := ∃ rest, block = text ++ stop :: rest

/-- `src` copied over the block from `i` on. -/
def overwrite (block : List α) (i : Nat) (src : List α) : List α :=
  block.take i ++ src ++ block.drop (i + src.length)

theorem terminated_iff :
    Terminated stop block text ↔
      block.take text.length = text ∧ block[text.length]? = some stop := by
  constructor
  · rintro ⟨rest, rfl⟩
    simp
  · rintro ⟨htake, hget⟩
    have hlt : text.length < block.length := (List.getElem?_eq_some_iff.mp hget).1
    refine ⟨block.drop (text.length + 1), ?_⟩
    have hstop : block[text.length] = stop := by
      rw [List.getElem?_eq_getElem hlt] at hget
      exact Option.some.inj hget
    calc
      block = block.take text.length ++ block.drop text.length :=
        (List.take_append_drop _ _).symm
      _ = text ++ block.drop text.length := by rw [htake]
      _ = text ++ stop :: block.drop (text.length + 1) := by
        rw [List.drop_eq_getElem_cons hlt, hstop]

theorem Terminated.length_lt (h : Terminated stop block text) : text.length < block.length := by
  obtain ⟨rest, rfl⟩ := h
  simp

/-- The bytes of a part of the text. -/
theorem Terminated.slice (h : Terminated stop block text) {i n : Nat}
    (hn : i + n ≤ text.length) : (block.drop i).take n = (text.drop i).take n := by
  obtain ⟨rest, rfl⟩ := h
  rw [List.drop_append_of_le_length (by omega), List.take_append_of_le_length]
  rw [List.length_drop]
  omega

theorem Terminated.getElem? (h : Terminated stop block text) {i : Nat} (hi : i < text.length) :
    block[i]? = text[i]? := by
  obtain ⟨rest, rfl⟩ := h
  rw [List.getElem?_append_left hi]

/-! ## Writing -/

theorem length_overwrite {i : Nat} (h : i + src.length ≤ block.length) :
    (overwrite block i src).length = block.length := by
  unfold overwrite
  simp only [List.length_append, List.length_take, List.length_drop]
  omega

theorem overwrite_append (front back src : List α) :
    overwrite (front ++ back) front.length src = front ++ (src ++ back.drop src.length) := by
  unfold overwrite
  rw [List.take_left, List.drop_append, List.append_assoc]
  simp

/-- A byte within the text. -/
theorem Terminated.set (h : Terminated stop block text) {i : Nat} (hi : i < text.length) (c : α) :
    Terminated stop (block.set i c) (text.set i c) := by
  obtain ⟨rest, rfl⟩ := h
  exact ⟨rest, List.set_append_left _ _ hi⟩

/-- A byte behind the terminator. -/
theorem Terminated.set_behind (h : Terminated stop block text) {i : Nat} (hi : text.length < i)
    (c : α) : Terminated stop (block.set i c) text := by
  obtain ⟨rest, rfl⟩ := h
  rw [List.set_append_right _ _ (by omega)]
  obtain ⟨j, hj⟩ : ∃ j, i - text.length = j + 1 := ⟨i - text.length - 1, by omega⟩
  rw [hj, List.set_cons_succ]
  exact ⟨_, rfl⟩

/-- The terminator within the text or where it is. -/
theorem Terminated.cut (h : Terminated stop block text) {i : Nat} (hi : i ≤ text.length) :
    Terminated stop (block.set i stop) (text.take i) := by
  have hlen : (text.take i).length = i := by
    rw [List.length_take]
    omega
  have hlt : i < block.length := Nat.lt_of_le_of_lt hi h.length_lt
  rw [terminated_iff, hlen]
  constructor
  · rw [List.take_set_of_le (Nat.le_refl i)]
    have hslice := h.slice (show 0 + i ≤ text.length by omega)
    simpa using hslice
  · simp [hlt]

/-- The terminator again where it is. -/
theorem Terminated.set_stop (h : Terminated stop block text) :
    Terminated stop (block.set text.length stop) text := by
  have hcut := h.cut (Nat.le_refl text.length)
  rwa [List.take_length] at hcut

/-- A text and its terminator copied to the start of a block. -/
theorem terminated_overwrite (h : src.length < block.length) :
    Terminated stop ((overwrite block 0 src).set src.length stop) src := by
  unfold overwrite
  rw [List.take_zero, List.nil_append, Nat.zero_add, List.set_append_right _ _ (Nat.le_refl _),
    Nat.sub_self, List.drop_eq_getElem_cons h, List.set_cons_zero]
  exact ⟨_, rfl⟩

/-- A text and its terminator copied behind a text. -/
theorem terminated_append (htake : block.take text.length = text)
    (hroom : text.length + src.length < block.length) :
    Terminated stop ((overwrite block text.length src).set (text.length + src.length) stop)
      (text ++ src) := by
  unfold overwrite
  rw [← List.length_append] at hroom ⊢
  rw [htake, List.drop_eq_getElem_cons hroom, List.set_append_right _ _ (Nat.le_refl _),
    Nat.sub_self, List.set_cons_zero]
  exact ⟨_, rfl⟩

/-- A longer block that begins with the old one. -/
theorem Terminated.of_prefix (h : Terminated stop block text) {block' : List α}
    (hkept : block'.take block.length = block) : Terminated stop block' text := by
  obtain ⟨rest, rfl⟩ := h
  refine ⟨rest ++ block'.drop (text ++ stop :: rest).length, ?_⟩
  calc
    block' = block'.take (text ++ stop :: rest).length
        ++ block'.drop (text ++ stop :: rest).length := (List.take_append_drop _ _).symm
    _ = text ++ stop :: (rest ++ block'.drop (text ++ stop :: rest).length) := by
      rw [hkept, List.append_assoc, List.cons_append]

theorem Terminated.take (h : Terminated stop block text) : block.take text.length = text :=
  (terminated_iff.mp h).1

end Vsftpd.Lib.TextBlock
