/-!
# Rules for `Except` programs

How a bind runs, and what a bind that succeeded says about its two halves.  `Yields`
is what is known of a program over a state that does not matter for it.
-/

namespace Vsftpd.Lib

variable {ε α β : Type}

@[simp] theorem ok_bind (a : α) (f : α → Except ε β) : (Except.ok a >>= f) = f a := rfl

@[simp] theorem error_bind (e : ε) (f : α → Except ε β) : (Except.error e >>= f) = .error e := rfl

theorem bind_eq_ok {x : Except ε α} {f : α → Except ε β} {b : β}
    (h : (x >>= f) = .ok b) : ∃ a, x = .ok a ∧ f a = .ok b := by
  cases x with
  | error e => cases h
  | ok a => exact ⟨a, rfl, h⟩

theorem bind_eq_ok_iff {x : Except ε α} {f : α → Except ε β} {b : β} :
    (x >>= f) = .ok b ↔ ∃ a, x = .ok a ∧ f a = .ok b := by
  constructor
  · exact bind_eq_ok
  · intro h
    obtain ⟨a, ha, hb⟩ := h
    rw [ha]
    exact hb

/-- A check at the beginning. -/
theorem guard_eq_ok_iff {c : Prop} [Decidable c] {e : ε} {x : Except ε α} {a : α} :
    (if c then .error e else x) = .ok a ↔ ¬ c ∧ x = .ok a := by
  by_cases h : c
  · simp [h]
  · simp [h]

/-- Programs that all have results. -/
theorem exists_map_ok_iff {f : α → Except ε β} {l : List α} :
    (∃ bs : List β, l.map f = bs.map .ok) ↔ ∀ a ∈ l, ∃ b, f a = .ok b := by
  induction l with
  | nil => exact iff_of_true ⟨[], rfl⟩ fun _ h => absurd h List.not_mem_nil
  | cons a l ih =>
      rw [List.forall_mem_cons, ← ih]
      constructor
      · rintro ⟨bs, hbs⟩
        obtain ⟨b, bs, rfl, hb, hrest⟩ := List.map_eq_cons_iff.mp hbs.symm
        exact ⟨⟨b, hb.symm⟩, bs, hrest.symm⟩
      · rintro ⟨⟨b, hb⟩, bs, hrest⟩
        refine ⟨b :: bs, ?_⟩
        rw [List.map_cons, List.map_cons, hb, hrest]

/-- What is read off the results, when the programs say it beforehand. -/
theorem map_of_map_ok {γ : Type} {f : α → Except ε β} {l : List α} {bs : List β} {g : β → γ}
    {g' : α → γ} (h : l.map f = bs.map .ok) (hg : ∀ a ∈ l, ∀ b, f a = .ok b → g b = g' a) :
    bs.map g = l.map g' := by
  induction l generalizing bs with
  | nil =>
      obtain rfl : bs = [] := List.map_eq_nil_iff.mp h.symm
      rfl
  | cons a l ih =>
      obtain ⟨b, bs, rfl, hb, hrest⟩ := List.map_eq_cons_iff.mp h.symm
      obtain ⟨ha, hl⟩ := List.forall_mem_cons.mp hg
      rw [List.map_cons, List.map_cons, ha b hb.symm, ih hrest.symm hl]

/-- What a result satisfies, when there is one. -/
def OnOk (Q : α → Prop) : Except ε α → Prop
  | .ok a => Q a
  | .error _ => True

instance {Q : α → Prop} [DecidablePred Q] : DecidablePred (fun x : Except ε α => OnOk Q x)
  | .ok a => inferInstanceAs (Decidable (Q a))
  | .error _ => inferInstanceAs (Decidable True)

/-! ## Programs whose state does not matter -/

/-- From every state the program ends with a result in `Q` or a failure in `F`. -/
def Yields {σ : Type} (F : ε → Prop) (Q : α → Prop) (m : StateT σ (Except ε) α) : Prop :=
  ∀ s, match m s with
    | .ok r => Q r.1
    | .error e => F e

section
variable {σ : Type} {F : ε → Prop} {Q : α → Prop} {P : β → Prop} {m : StateT σ (Except ε) α}
  {f : α → StateT σ (Except ε) β}

theorem Yields.pure {a : α} (h : Q a) :
    Yields F Q (Pure.pure a : StateT σ (Except ε) α) :=
  fun _ => h

theorem Yields.throw {e : ε} (h : F e) : Yields F Q (throw e : StateT σ (Except ε) α) :=
  fun _ => h

theorem Yields.get : Yields F (fun _ => True) (get : StateT σ (Except ε) σ) :=
  fun _ => trivial

theorem Yields.set {s : σ} : Yields F (fun _ => True) (set s : StateT σ (Except ε) PUnit) :=
  fun _ => trivial

theorem Yields.bind (hm : Yields F Q m) (hf : ∀ a, Q a → Yields F P (f a)) :
    Yields F P (m >>= f) := by
  intro s
  have hfirst := hm s
  show match (m s >>= fun r => f r.1 r.2) with
    | .ok r => P r.1
    | .error e => F e
  cases hrun : m s with
  | error e =>
      rw [hrun] at hfirst
      exact hfirst
  | ok r =>
      rw [hrun] at hfirst
      exact hf r.1 hfirst r.2

theorem Yields.ite {c : Prop} [Decidable c] {m' : StateT σ (Except ε) α}
    (hm : c → Yields F Q m) (hm' : ¬ c → Yields F Q m') :
    Yields F Q (if c then m else m') := by
  by_cases hc : c
  · rw [if_pos hc]
    exact hm hc
  · rw [if_neg hc]
    exact hm' hc

theorem Yields.mono {F' : ε → Prop} {Q' : α → Prop} (h : Yields F Q m)
    (hF : ∀ e, F e → F' e) (hQ : ∀ a, Q a → Q' a) : Yields F' Q' m := by
  intro s
  have hrun := h s
  cases hm : m s with
  | error e =>
      rw [hm] at hrun
      exact hF e hrun
  | ok r =>
      rw [hm] at hrun
      exact hQ r.1 hrun

theorem Yields.post {Q' : α → Prop} (h : Yields F Q m) (hQ : ∀ a, Q a → Q' a) :
    Yields F Q' m :=
  h.mono (fun _ he => he) hQ

end

end Vsftpd.Lib
