import Mathlib.Data.List.Basic

/-!
# What has happened since

In a list of events, oldest first: an event of one kind came, and none of another kind since.
-/

namespace Vsftpd.Lib

variable {E : Type} {P Q Q' : E → Prop} {es : List E} {e : E}

/-- An event in `P`, and none in `Q` after it. -/
def Since (P Q : E → Prop) (es : List E) : Prop :=
  ∃ before e after, es = before ++ e :: after ∧ P e ∧ ∀ f ∈ after, ¬ Q f

theorem since_concat : Since P Q (es ++ [e]) ↔ P e ∨ (¬ Q e ∧ Since P Q es) := by
  constructor
  · rintro ⟨before, f, after, hes, hf, hafter⟩
    rcases List.eq_nil_or_concat' after with rfl | ⟨init, last, rfl⟩
    · have hlast : [e] = [f] := (List.append_inj' hes rfl).2
      rw [(List.cons.inj hlast).1]
      exact .inl hf
    · have hsplit : es ++ [e] = (before ++ f :: init) ++ [last] := by
        rw [hes, List.append_assoc]
        rfl
      obtain ⟨hinit, hlast⟩ := List.append_inj' hsplit rfl
      rw [(List.cons.inj hlast).1]
      refine .inr ⟨hafter last (List.mem_append_right _ (List.mem_singleton.mpr rfl)), ?_⟩
      exact ⟨before, f, init, hinit, hf, fun g hg => hafter g (List.mem_append_left _ hg)⟩
  · rintro (he | ⟨he, before, f, after, rfl, hf, hafter⟩)
    · exact ⟨es, e, [], rfl, he, fun g hg => absurd hg List.not_mem_nil⟩
    · refine ⟨before, f, after ++ [e], ?_, hf, fun g hg => ?_⟩
      · rw [List.append_assoc]
        rfl
      · rcases List.mem_append.mp hg with hg | hg
        · exact hafter g hg
        · rw [List.mem_singleton.mp hg]
          exact he

/-- Events of neither kind change nothing. -/
theorem since_append {fs : List E} (h : ∀ f ∈ fs, ¬ P f ∧ ¬ Q f) :
    Since P Q (es ++ fs) ↔ Since P Q es := by
  induction fs generalizing es with
  | nil => rw [List.append_nil]
  | cons f fs ih =>
      have hf := h f List.mem_cons_self
      have hrest : Since P Q (es ++ [f] ++ fs) ↔ Since P Q (es ++ [f]) :=
        ih fun g hg => h g (List.mem_cons_of_mem f hg)
      rw [List.append_cons, hrest, since_concat, or_iff_right hf.1, and_iff_right hf.2]

end Vsftpd.Lib
