import Mathlib.Init

/-!
# Programs that leave a trace

A program runs from a state, leaves the list of its events and ends in a state,
with a result or halted.  `wp` is the weakest precondition of a run under a
requirement on every event and on every halt; `Triple` its form with a
precondition; `Quiet` says that a program leaves a view of the state alone.
-/

namespace Vsftpd.Lib

/-- A program over states `S` with events `E` that may halt with an `H`. -/
def Prog (E S H α : Type) : Type := S → List E × S × Except H α

namespace Prog

variable {E S H α β : Type}

def pure (a : α) : Prog E S H α := fun s => ([], s, .ok a)

def bind (m : Prog E S H α) (f : α → Prog E S H β) : Prog E S H β := fun s =>
  match m s with
  | (es, s', .ok a) => (es ++ (f a s').1, (f a s').2)
  | (es, s', .error h) => (es, s', .error h)

instance : Monad (Prog E S H) where
  pure := pure
  bind := bind

def get : Prog E S H S := fun s => ([], s, .ok s)

def modify (f : S → S) : Prog E S H Unit := fun s => ([], f s, .ok ())

def halt (h : H) : Prog E S H α := fun s => ([], s, .error h)

/-- One event, with an answer and a new state. -/
def emit (e : S → E) (step : S → α × S) : Prog E S H α := fun s =>
  ([e s], (step s).2, .ok (step s).1)

def whenever (c : Prop) [Decidable c] (m : Prog E S H Unit) : Prog E S H Unit :=
  if c then m else pure ()

def forEach (f : α → Prog E S H Unit) : List α → Prog E S H Unit
  | [] => pure ()
  | a :: as => do
    f a
    forEach f as

def iterate (m : Prog E S H Unit) : Nat → Prog E S H Unit
  | 0 => pure ()
  | n + 1 => do
    m
    iterate m n

end Prog

/-! ## Requirements -/

/-- What every event and every halt of a run must satisfy. -/
structure Requirement (E H : Type) where
  event : E → Prop
  halt : H → Prop

variable {E S H α β : Type} {V : Type}

def wp (R : Requirement E H) (m : Prog E S H α) (Q : α → S → Prop) (s : S) : Prop :=
  (∀ e ∈ (m s).1, R.event e) ∧
    match (m s).2.2 with
    | .ok a => Q a (m s).2.1
    | .error h => R.halt h

def Triple (R : Requirement E H) (P : S → Prop) (m : Prog E S H α) (Q : α → S → Prop) : Prop :=
  ∀ s, P s → wp R m Q s

variable {R : Requirement E H} {P : S → Prop} {m : Prog E S H α} {f : α → Prog E S H β}
  {Q : α → S → Prop} {s : S}

theorem wp_pure {a : α} : wp R (pure a) Q s ↔ Q a s := by
  constructor
  · exact fun h => h.2
  · exact fun h => ⟨fun _ he => absurd he List.not_mem_nil, h⟩

theorem wp_bind {Q : β → S → Prop} :
    wp R (m >>= f) Q s ↔ wp R m (fun a s' => wp R (f a) Q s') s := by
  show wp R (Prog.bind m f) Q s ↔ _
  unfold wp Prog.bind
  match m s with
  | (es, s', .ok a) =>
      dsimp only
      constructor
      · rintro ⟨hevents, hresult⟩
        exact ⟨fun e he => hevents e (List.mem_append_left _ he),
          fun e he => hevents e (List.mem_append_right _ he), hresult⟩
      · rintro ⟨hfirst, hrest, hresult⟩
        refine ⟨fun e he => ?_, hresult⟩
        rcases List.mem_append.mp he with he | he
        · exact hfirst e he
        · exact hrest e he
  | (es, s', .error h) => exact Iff.rfl

theorem wp_get {Q : S → S → Prop} : wp R Prog.get Q s ↔ Q s s := by
  constructor
  · exact fun h => h.2
  · exact fun h => ⟨fun _ he => absurd he List.not_mem_nil, h⟩

theorem wp_modify {g : S → S} {Q : Unit → S → Prop} :
    wp R (Prog.modify g) Q s ↔ Q () (g s) := by
  constructor
  · exact fun h => h.2
  · exact fun h => ⟨fun _ he => absurd he List.not_mem_nil, h⟩

theorem wp_halt {h : H} : wp R (Prog.halt h) Q s ↔ R.halt h := by
  constructor
  · exact fun hw => hw.2
  · exact fun hh => ⟨fun _ he => absurd he List.not_mem_nil, hh⟩

theorem wp_emit {e : S → E} {step : S → α × S} :
    wp R (Prog.emit e step) Q s ↔ R.event (e s) ∧ Q (step s).1 (step s).2 := by
  constructor
  · exact fun h => ⟨h.1 _ (List.mem_singleton.mpr rfl), h.2⟩
  · rintro ⟨he, hq⟩
    refine ⟨fun e' he' => ?_, hq⟩
    rw [List.mem_singleton.mp he']
    exact he

theorem wp_ite {c : Prop} [Decidable c] {m' : Prog E S H α} :
    wp R (if c then m else m') Q s ↔ (c → wp R m Q s) ∧ (¬ c → wp R m' Q s) := by
  by_cases hc : c
  · simp [hc]
  · simp [hc]

theorem wp_whenever {c : Prop} [Decidable c] {m : Prog E S H Unit} {Q : Unit → S → Prop} :
    wp R (Prog.whenever c m) Q s ↔ (c → wp R m Q s) ∧ (¬ c → Q () s) := by
  rw [Prog.whenever, wp_ite]
  exact and_congr_right fun _ => forall_congr' fun _ => wp_pure

theorem wp_congr {m' : Prog E S H α} (h : m s = m' s) : wp R m Q s ↔ wp R m' Q s := by
  unfold wp
  rw [h]

theorem wp.mono {Q' : α → S → Prop} (h : wp R m Q s) (hq : ∀ a s', Q a s' → Q' a s') :
    wp R m Q' s := by
  refine ⟨h.1, ?_⟩
  have hresult := h.2
  cases hm : (m s).2.2 with
  | ok a =>
      rw [hm] at hresult
      exact hq a _ hresult
  | error e =>
      rw [hm] at hresult
      exact hresult

theorem wp.weaken {R' : Requirement E H} (h : wp R m Q s) (he : ∀ e, R.event e → R'.event e)
    (hh : ∀ h, R.halt h → R'.halt h) : wp R' m Q s := by
  refine ⟨fun e hmem => he e (h.1 e hmem), ?_⟩
  have hresult := h.2
  cases hm : (m s).2.2 with
  | ok a =>
      rw [hm] at hresult
      exact hresult
  | error e =>
      rw [hm] at hresult
      exact hh e hresult

/-- What is known of the end of a run. -/
theorem wp.result {a : α} {s' : S} (h : wp R m Q s) (hm : (m s).2 = (s', .ok a)) : Q a s' := by
  have hresult := h.2
  rw [hm] at hresult
  exact hresult

/-- A run that comes to its end ends as the program does. -/
theorem wp.reached (h : wp R m Q s) :
    wp R m (fun a s' => Q a s' ∧ (m s).2 = (s', .ok a)) s := by
  refine ⟨h.1, ?_⟩
  have hresult := h.2
  cases hm : (m s).2.2 with
  | ok a =>
      rw [hm] at hresult
      exact ⟨hresult, Prod.ext rfl hm⟩
  | error e =>
      rw [hm] at hresult
      exact hresult

theorem Triple.wp (h : Triple R P m Q) {Q' : α → S → Prop} (hs : P s)
    (hq : ∀ a s', Q a s' → Q' a s') : wp R m Q' s :=
  (h s hs).mono hq

theorem Triple.pre {P' : S → Prop} (h : Triple R P m Q) (hp : ∀ s, P' s → P s) :
    Triple R P' m Q :=
  fun s hs => h s (hp s hs)

theorem Triple.post {Q' : α → S → Prop} (h : Triple R P m Q) (hq : ∀ a s, Q a s → Q' a s) :
    Triple R P m Q' :=
  fun s hs => (h s hs).mono hq

theorem Triple.bind {M : α → S → Prop} {Q : β → S → Prop} (h : Triple R P m M)
    (hf : ∀ a, Triple R (M a) (f a) Q) : Triple R P (m >>= f) Q :=
  fun s hs => wp_bind.mpr ((h s hs).mono fun a s' hm => hf a s' hm)

theorem Triple.iterate {I : S → Prop} {m : Prog E S H Unit}
    (h : Triple R I m fun _ s => I s) (n : Nat) :
    Triple R I (Prog.iterate m n) fun _ s => I s := by
  induction n with
  | zero => exact fun s hs => wp_pure.mpr hs
  | succ n ih => exact h.bind fun _ => ih

/-- `i` rounds of `m` lead from `s` to `s'`. -/
def Prog.Leads (m : Prog E S H Unit) (i : Nat) (s s' : S) : Prop :=
  (Prog.iterate m i s).2 = (s', .ok ())

/-- The end of a sequence of two runs. -/
theorem Prog.bind_result {m : Prog E S H α} {f : α → Prog E S H β} {a : α} {s s₁ : S}
    {r : S × Except H β} (hm : (m s).2 = (s₁, .ok a)) (hf : (f a s₁).2 = r) :
    ((m >>= f) s).2 = r := by
  show (Prog.bind m f s).2 = r
  unfold Prog.bind
  match hrun : m s with
  | (es, s₂, .ok b) =>
      rw [hrun] at hm
      obtain rfl : s₂ = s₁ := congrArg Prod.fst hm
      obtain rfl : b = a := Except.ok.inj (congrArg Prod.snd hm)
      exact hf
  | (es, s₂, .error e) =>
      rw [hrun] at hm
      exact absurd (congrArg Prod.snd hm) (by simp)

/-- The events of a run whose first part comes to its end. -/
theorem Prog.bind_events {m : Prog E S H α} {f : α → Prog E S H β} {a : α} {s : S}
    (hm : (m s).2.2 = .ok a) : ((m >>= f) s).1 = (m s).1 ++ (f a (m s).2.1).1 := by
  show (Prog.bind m f s).1 = _
  unfold Prog.bind
  match hrun : m s with
  | (es, s', .ok b) =>
      rw [hrun] at hm
      obtain rfl : b = a := Except.ok.inj hm
      rfl
  | (es, s', .error e) =>
      rw [hrun] at hm
      exact absurd hm (by simp)

theorem Prog.bind_assoc {γ : Type} (m : Prog E S H α) (f : α → Prog E S H β)
    (g : β → Prog E S H γ) : (m >>= f) >>= g = m >>= fun a => f a >>= g := by
  funext s
  show Prog.bind (Prog.bind m f) g s = Prog.bind m (fun a => Prog.bind (f a) g) s
  unfold Prog.bind
  cases m s with
  | mk es r =>
      cases r with
      | mk s' result =>
          cases result with
          | error e => rfl
          | ok a =>
              dsimp only
              cases f a s' with
              | mk es' r' =>
                  cases r' with
                  | mk s'' result' =>
                      cases result' with
                      | error e => rfl
                      | ok b =>
                          dsimp only
                          rw [List.append_assoc]

instance : LawfulMonad (Prog E S H) :=
  LawfulMonad.mk' (Prog E S H)
    (fun m => by
      funext s
      show Prog.bind m (fun a => Prog.pure a) s = m s
      unfold Prog.bind
      cases hm : m s with
      | mk es r =>
          obtain ⟨s', result⟩ := r
          cases result with
          | ok a => exact congrArg (·, s', Except.ok a) (List.append_nil es)
          | error e => rfl)
    (fun _ _ => rfl) Prog.bind_assoc

/-! ## Programs that read a script -/

/-- Some script leads the program to `a` and is used up there, whatever follows it. -/
def Prog.Reads {T : Type} (m : Prog E (List T) H α) (a : α) : Prop :=
  ∃ script, ∀ rest, (m (script ++ rest)).2 = (rest, .ok a)

/-- Some script makes the program leave an event with the property. -/
def Prog.Emits {T : Type} (m : Prog E (List T) H α) (P : E → Prop) : Prop :=
  ∃ script, ∀ rest, ∃ e ∈ (m (script ++ rest)).1, P e

section
variable {T : Type} {m : Prog E (List T) H α} {f : α → Prog E (List T) H β} {a : α} {b : β}
  {P : E → Prop}

theorem Prog.reads_pure (a : α) : Prog.Reads (pure a : Prog E (List T) H α) a :=
  ⟨[], fun _ => rfl⟩

theorem Prog.Reads.bind (hm : Prog.Reads m a) (hf : Prog.Reads (f a) b) :
    Prog.Reads (m >>= f) b := by
  obtain ⟨first, hfirst⟩ := hm
  obtain ⟨second, hsecond⟩ := hf
  refine ⟨first ++ second, fun rest => ?_⟩
  rw [List.append_assoc]
  exact Prog.bind_result (hfirst _) (hsecond rest)

theorem Prog.Emits.bind (hm : Prog.Emits m P) : Prog.Emits (m >>= f) P := by
  obtain ⟨script, hscript⟩ := hm
  refine ⟨script, fun rest => ?_⟩
  obtain ⟨e, he, hP⟩ := hscript rest
  refine ⟨e, ?_, hP⟩
  show e ∈ (Prog.bind m f (script ++ rest)).1
  unfold Prog.bind
  match hrun : m (script ++ rest) with
  | (es, s', .ok a) =>
      rw [hrun] at he
      exact List.mem_append_left _ he
  | (es, s', .error h) =>
      rw [hrun] at he
      exact he

theorem Prog.Reads.emits (hm : Prog.Reads m a) (hf : Prog.Emits (f a) P) :
    Prog.Emits (m >>= f) P := by
  obtain ⟨first, hfirst⟩ := hm
  obtain ⟨second, hsecond⟩ := hf
  refine ⟨first ++ second, fun rest => ?_⟩
  obtain ⟨e, he, hP⟩ := hsecond rest
  rw [List.append_assoc]
  refine ⟨e, ?_, hP⟩
  rw [Prog.bind_events (congrArg Prod.snd (hfirst (second ++ rest)))]
  apply List.mem_append_right
  rw [hfirst (second ++ rest)]
  exact he

/-- What some script leads to cannot be ruled out for every script. -/
theorem Prog.Emits.exists_event {Q : α → List T → Prop} (hm : Prog.Emits m P)
    (h : ∀ script, wp R m Q script) : ∃ e, R.event e ∧ P e := by
  obtain ⟨script, hscript⟩ := hm
  obtain ⟨e, he, hP⟩ := hscript []
  exact ⟨e, (h _).1 e he, hP⟩

end

/-- The two parts of a run that comes to its end. -/
theorem Prog.bind_ok {m : Prog E S H α} {f : α → Prog E S H β} {b : β} {s s' : S}
    (h : ((m >>= f) s).2 = (s', .ok b)) :
    ∃ a s₁, (m s).2 = (s₁, .ok a) ∧ (f a s₁).2 = (s', .ok b) := by
  have hbind : (Prog.bind m f s).2 = (s', .ok b) := h
  unfold Prog.bind at hbind
  match hrun : m s with
  | (es, s₁, .ok a) =>
      rw [hrun] at hbind
      exact ⟨a, s₁, rfl, hbind⟩
  | (es, s₁, .error e) =>
      rw [hrun] at hbind
      exact absurd (congrArg Prod.snd hbind) (by simp)

theorem Prog.leads_succ {m : Prog E S H Unit} {i : Nat} {s s₁ s' : S}
    (hm : (m s).2 = (s₁, .ok ())) (h : Prog.Leads m i s₁ s') : Prog.Leads m (i + 1) s s' :=
  Prog.bind_result hm h

theorem Prog.leads_add {m : Prog E S H Unit} {i j : Nat} {s s' : S}
    (h : Prog.Leads m (i + j) s s') : ∃ s₁, Prog.Leads m i s s₁ ∧ Prog.Leads m j s₁ s' := by
  induction i generalizing s with
  | zero =>
      rw [Nat.zero_add] at h
      exact ⟨s, rfl, h⟩
  | succ i ih =>
      rw [Nat.succ_add] at h
      obtain ⟨_, s₁, hm, hrest⟩ := Prog.bind_ok (m := m) h
      obtain ⟨s₂, hi, hj⟩ := ih hrest
      exact ⟨s₂, Prog.leads_succ hm hi, hj⟩

/-- A loop whose rounds keep the invariant where they are reached. -/
theorem wp_iterate_of_leads {I : S → Prop} {m : Prog E S H Unit} {n : Nat} (hs : I s)
    (h : ∀ i s', i < n → Prog.Leads m i s s' → I s' → wp R m (fun _ s => I s) s') :
    wp R (Prog.iterate m n) (fun _ s => I s) s := by
  induction n generalizing s with
  | zero => exact wp_pure.mpr hs
  | succ n ih =>
      rw [Prog.iterate, wp_bind]
      have hfirst : wp R m (fun _ s => I s) s := h 0 s (Nat.succ_pos n) rfl hs
      refine hfirst.reached.mono fun _ s1 h1 => ih h1.1 fun i s' hi hleads hinv => ?_
      exact h (i + 1) s' (Nat.succ_lt_succ hi) (Prog.leads_succ h1.2 hleads) hinv

theorem Triple.forEach {I : S → Prop} {g : β → Prog E S H Unit}
    (h : ∀ b, Triple R I (g b) fun _ s => I s) (bs : List β) :
    Triple R I (Prog.forEach g bs) fun _ s => I s := by
  induction bs with
  | nil => exact fun s hs => wp_pure.mpr hs
  | cons b bs ih => exact (h b).bind fun _ => ih

/-! ## Programs that leave a view alone -/

/-- Every event of a run meets `ok` at the view the run began with, every halt is
allowed, and the view is the same at the end. -/
def Quiet (view : S → V) (ok : V → E → Prop) (halts : H → Prop) (m : Prog E S H α) : Prop :=
  ∀ v, Triple ⟨ok v, halts⟩ (fun s => view s = v) m fun _ s => view s = v

variable {view : S → V} {ok : V → E → Prop} {halts : H → Prop}

theorem Quiet.pure (a : α) : Quiet view ok halts (Pure.pure a : Prog E S H α) :=
  fun _ _ hs => wp_pure.mpr hs

theorem Quiet.bind (hm : Quiet view ok halts m) (hf : ∀ a, Quiet view ok halts (f a)) :
    Quiet view ok halts (m >>= f) :=
  fun v => (hm v).bind fun a => hf a v

theorem Quiet.get : Quiet view ok halts (Prog.get : Prog E S H S) :=
  fun _ _ hs => wp_get.mpr hs

theorem Quiet.modify {g : S → S} (h : ∀ s, view (g s) = view s) :
    Quiet view ok halts (Prog.modify g : Prog E S H Unit) :=
  fun _ s hs => wp_modify.mpr ((h s).trans hs)

theorem Quiet.halt {h : H} (hh : halts h) : Quiet view ok halts (Prog.halt h : Prog E S H α) :=
  fun _ _ _ => wp_halt.mpr hh

theorem Quiet.emit {e : S → E} {step : S → α × S} (he : ∀ s, ok (view s) (e s))
    (hstep : ∀ s, view (step s).2 = view s) :
    Quiet view ok halts (Prog.emit e step : Prog E S H α) := by
  rintro _ s rfl
  exact wp_emit.mpr ⟨he s, hstep s⟩

theorem Quiet.ite {c : Prop} [Decidable c] {m' : Prog E S H α} (hm : Quiet view ok halts m)
    (hm' : Quiet view ok halts m') : Quiet view ok halts (if c then m else m') :=
  fun v s hs => wp_ite.mpr ⟨fun _ => hm v s hs, fun _ => hm' v s hs⟩

theorem Quiet.whenever {c : Prop} [Decidable c] {m : Prog E S H Unit}
    (hm : Quiet view ok halts m) : Quiet view ok halts (Prog.whenever c m) :=
  Quiet.ite hm (Quiet.pure ())

theorem Quiet.forEach {g : β → Prog E S H Unit} (h : ∀ b, Quiet view ok halts (g b))
    (bs : List β) : Quiet view ok halts (Prog.forEach g bs) :=
  fun v => Triple.forEach (fun b => h b v) bs

/-- A quiet program met on the way: what was known of the view is still known. -/
theorem Quiet.wp (h : Quiet view ok halts m) (he : ∀ e, ok (view s) e → R.event e)
    (hh : ∀ h, halts h → R.halt h) (hq : ∀ a s', view s' = view s → Q a s') :
    wp R m Q s :=
  ((h (view s) s rfl).mono hq).weaken he hh

end Vsftpd.Lib
