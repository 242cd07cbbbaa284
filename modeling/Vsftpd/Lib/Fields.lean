import Mathlib.Data.List.Basic

/-!
# Fields between separators

A line is made of fields with one separator between two of them.  How many separators it
has, and what is between them, is known as long as no field has a separator in it.
-/

namespace Vsftpd.Lib.Fields

variable {α β : Type} {sep : α} {fields others : List (List α)} {line : List α}

theorem intercalate_append (hfields : fields ≠ []) (hothers : others ≠ []) :
    [sep].intercalate (fields ++ others) =
      [sep].intercalate fields ++ sep :: [sep].intercalate others := by
  induction fields with
  | nil => exact absurd rfl hfields
  | cons field rest ih =>
      cases rest with
      | nil =>
          rw [List.singleton_append, List.intercalate_cons_of_ne_nil hothers,
            List.intercalate_singleton, List.append_assoc, List.singleton_append]
      | cons next rest =>
          have hnext : next :: rest ≠ [] := List.cons_ne_nil next rest
          have hboth : (next :: rest) ++ others ≠ [] :=
            List.append_ne_nil_of_left_ne_nil hnext others
          rw [List.cons_append, List.intercalate_cons_of_ne_nil hboth, ih hnext,
            List.intercalate_cons_of_ne_nil hnext, List.append_assoc, List.append_assoc,
            List.append_assoc]

theorem map_intercalate (f : α → β) (fields : List (List α)) :
    ([sep].intercalate fields).map f = [f sep].intercalate (fields.map (List.map f)) := by
  induction fields with
  | nil => rfl
  | cons field rest ih =>
      cases rest with
      | nil => simp
      | cons next rest =>
          rw [List.intercalate_cons_cons, List.map_append, List.map_append, ih]
          symm
          exact List.intercalate_cons_cons

variable [BEq α] [LawfulBEq α]

/-- Each field but the last brings one separator. -/
theorem count_intercalate (hsep : ∀ field ∈ fields, sep ∉ field) (hfields : fields ≠ []) :
    ([sep].intercalate fields).count sep + 1 = fields.length := by
  induction fields with
  | nil => exact absurd rfl hfields
  | cons field rest ih =>
      obtain ⟨hfield, hrest⟩ := List.forall_mem_cons.mp hsep
      have hzero : field.count sep = 0 := List.count_eq_zero_of_not_mem hfield
      cases rest with
      | nil => rw [List.intercalate_singleton, hzero, List.length_singleton]
      | cons next rest =>
          have hcount := ih hrest (List.cons_ne_nil next rest)
          rw [List.intercalate_cons_cons, List.count_append, List.count_append, hzero,
            List.count_singleton_self, List.length_cons, ← hcount]
          omega

theorem not_mem_of_mem_splitOn {field : List α} (h : field ∈ line.splitOn sep) : sep ∉ field := by
  induction line generalizing field with
  | nil =>
      rw [List.splitOn_nil, List.mem_singleton] at h
      rw [h]
      exact List.not_mem_nil
  | cons c line ih =>
      rw [List.splitOn_cons_eq_if_modifyHead] at h
      by_cases hc : (c == sep) = true
      · rw [if_pos hc, List.mem_cons] at h
        rcases h with rfl | h
        · exact List.not_mem_nil
        · exact ih h
      · rw [if_neg hc] at h
        cases hline : line.splitOn sep with
        | nil => exact absurd hline (List.splitOn_ne_nil sep line)
        | cons first rest =>
            rw [hline, List.modifyHead_cons, List.mem_cons] at h
            rw [hline] at ih
            rcases h with rfl | h
            · intro hmem
              rcases List.mem_cons.mp hmem with rfl | hmem
              · exact hc (beq_self_eq_true _)
              · exact ih List.mem_cons_self hmem
            · exact ih (List.mem_cons_of_mem first h)

theorem length_splitOn (sep : α) (line : List α) :
    (line.splitOn sep).length = line.count sep + 1 := by
  have hcount : ([sep].intercalate (line.splitOn sep)).count sep + 1 = (line.splitOn sep).length :=
    count_intercalate (fun _ h => not_mem_of_mem_splitOn h) (List.splitOn_ne_nil sep line)
  rw [List.intercalate_splitOn] at hcount
  exact hcount.symm

end Vsftpd.Lib.Fields
