import Vsftpd.Lib.Traced

/-!
# Programs that pay for some of their events

Some events of a trace are paid for with one unit of a budget each.  `bwp` is the weakest
precondition of a run that never overdraws it, with a postcondition on what is left.
-/

namespace Vsftpd.Lib

variable {E S H α β V : Type}

/-- The events that `p` picks are within the budget, whose rest is for what follows. -/
def bwp (p : E → Bool) (m : Prog E S H α) (Q : α → Nat → S → Prop) (n : Nat) (s : S) : Prop :=
  (m s).1.countP p ≤ n ∧
    match (m s).2.2 with
    | .ok a => Q a (n - (m s).1.countP p) (m s).2.1
    | .error _ => True

variable {p : E → Bool} {m m' : Prog E S H α} {f : α → Prog E S H β} {Q : α → Nat → S → Prop}
  {n : Nat} {s : S}

theorem bwp_pure {a : α} (h : Q a n s) : bwp p (pure a : Prog E S H α) Q n s :=
  ⟨Nat.zero_le n, h⟩

theorem bwp_bind {Q : β → Nat → S → Prop} (h : bwp p m (fun a => bwp p (f a) Q) n s) :
    bwp p (m >>= f) Q n s := by
  show bwp p (Prog.bind m f) Q n s
  unfold bwp at h ⊢
  unfold Prog.bind
  cases hm : m s with
  | mk es end₁ =>
      obtain ⟨s₁, result⟩ := end₁
      rw [hm] at h
      cases result with
      | error e => exact ⟨h.1, trivial⟩
      | ok a =>
          obtain ⟨hfirst, hrest, hresult⟩ := h
          dsimp only at hfirst hrest hresult ⊢
          have hsum : (es ++ (f a s₁).1).countP p = es.countP p + (f a s₁).1.countP p :=
            List.countP_append
          have hleft : n - (es ++ (f a s₁).1).countP p = n - es.countP p - (f a s₁).1.countP p := by
            rw [hsum]
            exact Nat.sub_add_eq _ _ _
          refine ⟨by omega, ?_⟩
          rw [hleft]
          exact hresult

theorem bwp_get {Q : S → Nat → S → Prop} (h : Q s n s) : bwp p (Prog.get : Prog E S H S) Q n s :=
  ⟨Nat.zero_le n, h⟩

theorem bwp_modify {g : S → S} {Q : Unit → Nat → S → Prop} (h : Q () n (g s)) :
    bwp p (Prog.modify g : Prog E S H Unit) Q n s :=
  ⟨Nat.zero_le n, h⟩

theorem bwp_halt {e : H} : bwp p (Prog.halt e : Prog E S H α) Q n s :=
  ⟨Nat.zero_le n, trivial⟩

/-- An event that is paid for. -/
theorem bwp_emit {e : S → E} {step : S → α × S} (hn : 0 < n)
    (h : Q (step s).1 (n - 1) (step s).2) (hpaid : p (e s) = true) :
    bwp p (Prog.emit e step : Prog E S H α) Q n s := by
  have hcount : [e s].countP p = 1 := by
    rw [List.countP_singleton, if_pos hpaid]
  show [e s].countP p ≤ n ∧ Q (step s).1 (n - [e s].countP p) (step s).2
  rw [hcount]
  exact ⟨hn, h⟩

theorem bwp_ite {c : Prop} [Decidable c] (h : c → bwp p m Q n s) (h' : ¬ c → bwp p m' Q n s) :
    bwp p (if c then m else m') Q n s := by
  by_cases hc : c
  · rw [if_pos hc]
    exact h hc
  · rw [if_neg hc]
    exact h' hc

theorem bwp.mono {Q' : α → Nat → S → Prop} (h : bwp p m Q n s)
    (hq : ∀ a n' s', Q a n' s' → Q' a n' s') : bwp p m Q' n s := by
  refine ⟨h.1, ?_⟩
  have hresult := h.2
  cases hm : (m s).2.2 with
  | ok a =>
      rw [hm] at hresult
      exact hq a _ _ hresult
  | error e => trivial

/-- A program that costs nothing. -/
abbrev Free (p : E → Bool) (view : S → V) (m : Prog E S H α) : Prop :=
  Quiet view (fun _ e => p e = false) (fun _ => True) m

variable {view : S → V}

theorem Free.bwp (h : Free p view m) (hq : ∀ a s', view s' = view s → Q a n s') :
    bwp p m Q n s := by
  obtain ⟨hevents, hresult⟩ := h (view s) s rfl
  have hcount : (m s).1.countP p = 0 := by
    rw [List.countP_eq_zero]
    intro e he
    rw [hevents e he]
    exact Bool.false_ne_true
  unfold Lib.bwp
  rw [hcount]
  refine ⟨Nat.zero_le n, ?_⟩
  cases hm : (m s).2.2 with
  | ok a =>
      rw [hm] at hresult
      exact hq a _ hresult
  | error e => trivial

/-- A loop whose rounds keep an invariant of the state and of what is left. -/
theorem bwp_iterate {I : Nat → S → Prop} {m : Prog E S H Unit}
    (hround : ∀ n s, I n s → bwp p m (fun _ => I) n s) (rounds : Nat) (h : I n s) :
    bwp p (Prog.iterate m rounds) (fun _ => I) n s := by
  induction rounds generalizing n s with
  | zero => exact bwp_pure h
  | succ rounds ih => exact bwp_bind ((hround n s h).mono fun _ _ _ hnext => ih hnext)

/-- What a run that goes on has spent. -/
theorem bwp.spent {a : α} {s' : S} (h : bwp p m Q n s) (hm : (m s).2 = (s', .ok a)) :
    ∃ left, (m s).1.countP p + left = n ∧ Q a left s' := by
  obtain ⟨hcount, hresult⟩ := h
  rw [hm] at hresult
  exact ⟨n - (m s).1.countP p, Nat.add_sub_cancel' hcount, hresult⟩

end Vsftpd.Lib
