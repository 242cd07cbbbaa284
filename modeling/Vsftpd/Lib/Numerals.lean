import Mathlib.Data.Nat.Digits.Lemmas

/-!
# Numerals

The number that a list of digits stands for, first digit first, as a loop over the
digits computes it.  Two numbers that agree modulo a power of the base, times a
factor, agree in the places below it.
-/

namespace Vsftpd.Lib.Numerals

variable {b : Nat} {ds es : List Nat}

/-- The digits read on from the number `n`. -/
def valueFrom (b n : Nat) (ds : List Nat) : Nat := ds.foldl (fun n d => n * b + d) n

def value (b : Nat) (ds : List Nat) : Nat := valueFrom b 0 ds

/-- The digit at place `i`, counted from the last one. -/
def place (ds : List Nat) (i : Nat) : Nat := ds.reverse.getD i 0

@[simp] theorem value_nil : value b [] = 0 := rfl

theorem valueFrom_cons (b n d : Nat) (ds : List Nat) :
    valueFrom b n (d :: ds) = valueFrom b (n * b + d) ds := rfl

theorem value_concat (b : Nat) (ds : List Nat) (d : Nat) :
    value b (ds ++ [d]) = value b ds * b + d := by
  unfold value valueFrom
  rw [List.foldl_append]
  rfl

theorem value_replicate_zero (b n : Nat) : value b (List.replicate n 0) = 0 := by
  induction n with
  | zero => rfl
  | succ n ih => rw [List.replicate_succ', value_concat, ih, Nat.zero_mul]

theorem value_lt (h : ∀ d ∈ ds, d < b) : value b ds < b ^ ds.length := by
  induction ds using List.reverseRecOn with
  | nil => exact Nat.one_pos
  | append_singleton ds d ih =>
      have hd : d < b := h d (by simp)
      have hds : value b ds < b ^ ds.length := ih fun e he => h e (by simp [he])
      rw [value_concat, List.length_append, List.length_singleton, Nat.pow_succ]
      calc
        value b ds * b + d < value b ds * b + b := Nat.add_lt_add_left hd _
        _ = (value b ds + 1) * b := (Nat.succ_mul _ _).symm
        _ ≤ b ^ ds.length * b := Nat.mul_le_mul_right b hds

theorem valueFrom_eq (b n : Nat) (ds : List Nat) :
    valueFrom b n ds = n * b ^ ds.length + value b ds := by
  induction ds using List.reverseRecOn with
  | nil => simp [valueFrom, value]
  | append_singleton ds d ih =>
      have hlast : valueFrom b n (ds ++ [d]) = valueFrom b n ds * b + d := by
        unfold valueFrom
        rw [List.foldl_append]
        rfl
      rw [hlast, value_concat, ih, List.length_append, List.length_singleton, Nat.pow_succ,
        Nat.add_mul, Nat.mul_assoc, Nat.add_assoc]

theorem value_cons (b d : Nat) (ds : List Nat) :
    value b (d :: ds) = d * b ^ ds.length + value b ds := by
  rw [value, valueFrom_cons, valueFrom_eq, Nat.zero_mul, Nat.zero_add]

/-- Leading zeros do not count. -/
theorem value_leading_zeros (b n : Nat) (ds : List Nat) :
    value b (List.replicate n 0 ++ ds) = value b ds := by
  induction n with
  | zero => rfl
  | succ n ih =>
      rw [List.replicate_succ, List.cons_append, value_cons, ih, Nat.zero_mul, Nat.zero_add]

/-- Numerals of one length are ordered like their numbers. -/
theorem compare_value (hlen : ds.length = es.length) (hds : ∀ d ∈ ds, d < b)
    (hes : ∀ e ∈ es, e < b) : compare (value b ds) (value b es) = compare ds es := by
  induction ds generalizing es with
  | nil =>
      rw [List.length_nil, eq_comm, List.length_eq_zero_iff] at hlen
      rw [hlen]
      rfl
  | cons d ds ih =>
      obtain ⟨e, es, rfl⟩ := List.exists_cons_of_length_eq_add_one hlen.symm
      have hlen' : ds.length = es.length := Nat.succ_inj.mp hlen
      have hrest := ih hlen' (fun x hx => hds x (List.mem_cons_of_mem d hx))
        fun x hx => hes x (List.mem_cons_of_mem e hx)
      have hlow : value b ds < b ^ ds.length :=
        value_lt fun x hx => hds x (List.mem_cons_of_mem d hx)
      have hlow' : value b es < b ^ es.length :=
        value_lt fun x hx => hes x (List.mem_cons_of_mem e hx)
      rw [List.compare_cons_cons, ← hrest, value_cons, value_cons, ← hlen']
      rw [← hlen'] at hlow'
      rcases Nat.lt_trichotomy d e with hde | rfl | hde
      · have hstep : (d + 1) * b ^ ds.length ≤ e * b ^ ds.length := Nat.mul_le_mul_right _ hde
        rw [Nat.add_mul, Nat.one_mul] at hstep
        rw [Nat.compare_eq_lt.mpr hde, Nat.compare_eq_lt.mpr (by omega)]
        rfl
      · rw [Nat.compare_eq_eq.mpr rfl]
        show _ = compare (value b ds) (value b es)
        simp only [Nat.compare_eq_ite_lt, Nat.add_lt_add_iff_left]
      · have hstep : (e + 1) * b ^ ds.length ≤ d * b ^ ds.length := Nat.mul_le_mul_right _ hde
        rw [Nat.add_mul, Nat.one_mul] at hstep
        rw [Nat.compare_eq_gt.mpr hde, Nat.compare_eq_gt.mpr (by omega)]
        rfl

theorem value_eq_zero_iff (hb : 0 < b) : value b ds = 0 ↔ ∀ d ∈ ds, d = 0 := by
  induction ds using List.reverseRecOn with
  | nil => simp
  | append_singleton ds d ih =>
      rw [value_concat, Nat.add_eq_zero_iff, Nat.mul_eq_zero, or_iff_left (by omega), ih]
      simp [or_imp, forall_and]

/-- A numeral that loses its last digit stands for another number, unless for 0. -/
theorem value_dropLast_eq_iff (hb : 1 < b) :
    value b ds.dropLast = value b ds ↔ ∀ d ∈ ds, d = 0 := by
  cases ds using List.reverseRecOn with
  | nil => simp
  | append_singleton ds d =>
      rw [List.dropLast_concat, ← value_eq_zero_iff (Nat.lt_of_succ_lt hb), value_concat]
      constructor
      · intro h
        have hzero : value b ds = 0 := by
          by_contra hpos
          have hgrow : value b ds * 1 < value b ds * b :=
            Nat.mul_lt_mul_of_pos_left hb (Nat.pos_of_ne_zero hpos)
          omega
        rw [hzero] at h ⊢
        omega
      · intro h
        obtain ⟨hmul, -⟩ := Nat.add_eq_zero_iff.mp h
        rcases Nat.mul_eq_zero.mp hmul with hzero | hzero
        · rw [h, hzero]
        · omega

@[simp] theorem place_nil (i : Nat) : place [] i = 0 := by
  simp [place]

theorem place_concat_zero (ds : List Nat) (d : Nat) : place (ds ++ [d]) 0 = d := by
  simp [place]

theorem place_concat_succ (ds : List Nat) (d i : Nat) : place (ds ++ [d]) (i + 1) = place ds i := by
  simp [place]

theorem place_replicate (n d i : Nat) :
    place (List.replicate n d) i = if i < n then d else 0 := by
  unfold place
  rw [List.reverse_replicate, List.getD_eq_getElem?_getD, List.getElem?_replicate]
  split_ifs <;> rfl

theorem value_div_pow_mod (h : ∀ d ∈ ds, d < b) (i : Nat) :
    value b ds / b ^ i % b = place ds i := by
  induction ds using List.reverseRecOn generalizing i with
  | nil => simp
  | append_singleton ds d ih =>
      have hd : d < b := h d (by simp)
      have hds : ∀ e ∈ ds, e < b := fun e he => h e (by simp [he])
      cases i with
      | zero =>
          rw [Nat.pow_zero, Nat.div_one, place_concat_zero, value_concat, Nat.add_comm,
            Nat.add_mul_mod_self_right, Nat.mod_eq_of_lt hd]
      | succ i =>
          have hdiv : value b (ds ++ [d]) / b = value b ds := by
            rw [value_concat, Nat.add_comm, Nat.add_mul_div_right _ _ (by omega),
              Nat.div_eq_of_lt hd, Nat.zero_add]
          rw [place_concat_succ, Nat.pow_succ', ← Nat.div_div_eq_div_mul, hdiv, ih hds]

theorem mod_mul_eq_iff {n m : Nat} (b c : Nat) :
    n % (b * c) = m % (b * c) ↔ n % b = m % b ∧ n / b % c = m / b % c := by
  constructor
  · intro h
    constructor
    · rw [← Nat.mod_mul_right_mod n b c, h, Nat.mod_mul_right_mod]
    · rw [← Nat.mod_mul_right_div_self n b c, h, Nat.mod_mul_right_div_self]
  · rintro ⟨hlow, hhigh⟩
    rw [Nat.mod_mul, Nat.mod_mul, hlow, hhigh]

/-- Agreement below place `k`, and of the rest modulo `c`. -/
theorem mod_pow_mul_eq_iff {n m : Nat} (b k c : Nat) :
    n % (b ^ k * c) = m % (b ^ k * c) ↔
      (∀ i < k, n / b ^ i % b = m / b ^ i % b) ∧ n / b ^ k % c = m / b ^ k % c := by
  induction k generalizing c with
  | zero => simp
  | succ k ih =>
      have hnext : ∀ x : Nat, x / b ^ k / b = x / b ^ (k + 1) := fun x => by
        rw [Nat.div_div_eq_div_mul, Nat.pow_succ]
      rw [Nat.pow_succ, Nat.mul_assoc, ih, mod_mul_eq_iff, hnext, hnext]
      constructor
      · rintro ⟨hbelow, hplace, hrest⟩
        refine ⟨fun i hi => ?_, hrest⟩
        rcases Nat.lt_succ_iff_lt_or_eq.mp hi with hi | rfl
        · exact hbelow i hi
        · exact hplace
      · rintro ⟨hbelow, hrest⟩
        exact ⟨fun i hi => hbelow i (Nat.lt_succ_of_lt hi), hbelow k (Nat.lt_succ_self k), hrest⟩

/-- Two numerals that agree below place `k`, and at place `k` modulo a divisor of the base. -/
theorem value_mod_eq_iff (hds : ∀ d ∈ ds, d < b) (hes : ∀ e ∈ es, e < b) (k c : Nat)
    (hc : c ∣ b) :
    value b ds % (b ^ k * c) = value b es % (b ^ k * c) ↔
      (∀ i < k, place ds i = place es i) ∧ place ds k % c = place es k % c := by
  have hplace : ∀ x : Nat, x % c = x % b % c := fun x => (Nat.mod_mod_of_dvd x hc).symm
  rw [mod_pow_mul_eq_iff, hplace (value b ds / b ^ k), hplace (value b es / b ^ k),
    value_div_pow_mod hds, value_div_pow_mod hes]
  refine and_congr_left fun _ => forall_congr' fun i => imp_congr_right fun _ => ?_
  rw [value_div_pow_mod hds, value_div_pow_mod hes]

end Vsftpd.Lib.Numerals
