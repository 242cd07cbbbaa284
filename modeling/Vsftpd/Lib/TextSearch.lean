import Mathlib.Data.List.Infix

/-!
# Searching one list in another

`locate` scans from the left.  Its result is described without the scan:
`FirstAt pat s pre post` says that `s` is `pre`, the first occurrence of `pat`,
and `post`; `AfterLast pat s post` that `post` is what is left of `s` behind the
last occurrence found by scanning on from each occurrence's end.  `Replaces pat new s out`
says that the same scan puts `new` in the place of every occurrence it finds.
`locateLast` scans from the right.
-/

namespace Vsftpd.Lib.TextSearch

variable {α : Type}

def Occurs (pat s : List α) : Prop := ∃ pre post, s = pre ++ (pat ++ post)

structure FirstAt (pat s pre post : List α) : Prop where
  split : s = pre ++ (pat ++ post)
  first : ∀ pre' post', s = pre' ++ (pat ++ post') → pre.length ≤ pre'.length

inductive AfterLast (pat : List α) : List α → List α → Prop
  | last {s pre post : List α} (h : FirstAt pat s pre post) (hno : ¬ Occurs pat post) :
      AfterLast pat s post
  | more {s pre mid post : List α} (h : FirstAt pat s pre mid) (hmid : AfterLast pat mid post) :
      AfterLast pat s post

inductive Replaces (pat new : List α) : List α → List α → Prop
  | done {s : List α} (hno : ¬ Occurs pat s) : Replaces pat new s s
  | step {s pre post out : List α} (h : FirstAt pat s pre post)
      (hpost : Replaces pat new post out) : Replaces pat new s (pre ++ (new ++ out))

theorem FirstAt.unique {pat s pre post pre' post' : List α} (h : FirstAt pat s pre post)
    (h' : FirstAt pat s pre' post') : pre = pre' ∧ post = post' := by
  have hlen : pre.length = pre'.length :=
    Nat.le_antisymm (h.first _ _ h'.split) (h'.first _ _ h.split)
  have heq := h.split.symm.trans h'.split
  obtain ⟨hpre, hrest⟩ := List.append_inj heq hlen
  exact ⟨hpre, List.append_cancel_left hrest⟩

theorem FirstAt.occurs {pat s pre post : List α} (h : FirstAt pat s pre post) : Occurs pat s :=
  ⟨pre, post, h.split⟩

theorem FirstAt.length {pat s pre post : List α} (h : FirstAt pat s pre post) :
    s.length = pre.length + pat.length + post.length := by
  rw [h.split, List.length_append, List.length_append, Nat.add_assoc]

theorem AfterLast.split {pat s post : List α} (h : AfterLast pat s post) :
    ∃ pre, s = pre ++ (pat ++ post) := by
  induction h with
  | last h _ => exact ⟨_, h.split⟩
  | more h _ ih =>
      obtain ⟨pre, hpre⟩ := ih
      exact ⟨_, by rw [h.split, hpre, ← List.append_assoc, ← List.append_assoc]⟩

theorem AfterLast.occurs {pat s post : List α} (h : AfterLast pat s post) : Occurs pat s := by
  cases h with
  | last h _ => exact h.occurs
  | more h _ => exact h.occurs

theorem AfterLast.unique {pat s post post' : List α} (h : AfterLast pat s post)
    (h' : AfterLast pat s post') : post = post' := by
  induction h with
  | last h hno =>
      cases h' with
      | last h' _ => exact (h.unique h').2
      | more h' hmid =>
          rw [(h.unique h').2] at hno
          exact absurd hmid.occurs hno
  | more h hmid ih =>
      cases h' with
      | last h' hno =>
          rw [← (h.unique h').2] at hno
          exact absurd hmid.occurs hno
      | more h' hmid' =>
          rw [← (h.unique h').2] at hmid'
          exact ih hmid'

/-! ## Texts that do not overlap themselves -/

/-- No proper part of the beginning of the text is its end. -/
def Unbordered (text : List α) : Prop :=
  ∀ a b c, text = a ++ b → text = b ++ c → b = [] ∨ b = text

theorem unbordered_of_head {c : α} {rest : List α} (h : c ∉ rest) : Unbordered (c :: rest) := by
  intro a b d hend hbegin
  cases a with
  | nil => exact .inr hend.symm
  | cons e a =>
      cases b with
      | nil => exact .inl rfl
      | cons f b =>
          -- the border begins with `c`, which does not occur again
          obtain ⟨rfl, -⟩ := List.cons.inj hbegin
          obtain ⟨-, hrest⟩ := List.cons.inj hend
          refine absurd ?_ h
          rw [hrest]
          simp

/-- An occurrence of the text before its occurrence at the end leaves that one alone. -/
theorem Unbordered.apart {text : List α} (h : Unbordered text) {p q pre : List α}
    (hq : q ≠ []) (heq : p ++ (text ++ q) = pre ++ text) :
    ∃ r, pre = p ++ (text ++ r) ∧ q = r ++ text := by
  rcases List.append_eq_append_iff.mp heq with ⟨a, hpre, hrest⟩ | ⟨a, -, htext⟩
  · rcases List.append_eq_append_iff.mp hrest with ⟨b, ha, hb⟩ | ⟨b, hend, hbegin⟩
    · exact ⟨b, by rw [hpre, ha], hb⟩
    · rcases h a b q hend hbegin with hb | hb
      · rw [hb, List.append_nil] at hend
        rw [hb, List.nil_append] at hbegin
        exact ⟨[], by rw [hpre, ← hend, List.append_nil], by rw [← hbegin, List.nil_append]⟩
      · rw [hb] at hbegin
        exact absurd (List.self_eq_append_right.mp hbegin) hq
  · have hlength := congrArg List.length htext
    have hpos := List.length_pos_of_ne_nil hq
    simp only [List.length_append] at hlength
    omega

/-! ## The scan -/

variable [DecidableEq α]

/-- The position of the first occurrence, counted from `i`. -/
def locateFrom (pat : List α) : List α → Nat → Option Nat
  | [], i => if pat = [] then some i else none
  | c :: s, i => if pat.isPrefixOf (c :: s) then some i else locateFrom pat s (i + 1)

def locate (pat s : List α) : Option Nat := locateFrom pat s 0

theorem isPrefixOf_iff_append {pat s : List α} :
    pat.isPrefixOf s = true ↔ ∃ post, s = pat ++ post := by
  rw [List.isPrefixOf_iff_prefix]
  constructor
  · rintro ⟨post, h⟩
    exact ⟨post, h.symm⟩
  · rintro ⟨post, h⟩
    exact ⟨post, h.symm⟩

theorem locateFrom_cons {pat s : List α} (c : α) (i : Nat)
    (h : ¬ ∃ post, c :: s = pat ++ post) :
    locateFrom pat (c :: s) i = locateFrom pat s (i + 1) := by
  rw [locateFrom, if_neg]
  rwa [isPrefixOf_iff_append]

theorem locateFrom_some {pat s : List α} {i k : Nat} (h : locateFrom pat s i = some k) :
    ∃ pre post, FirstAt pat s pre post ∧ k = i + pre.length := by
  induction s generalizing i with
  | nil =>
      rw [locateFrom] at h
      split_ifs at h with hpat
      cases h
      subst hpat
      exact ⟨[], [], ⟨rfl, fun _ _ _ => Nat.zero_le _⟩, rfl⟩
  | cons c s ih =>
      by_cases hpre : ∃ post, c :: s = pat ++ post
      · rw [locateFrom, if_pos (isPrefixOf_iff_append.mpr hpre)] at h
        cases h
        obtain ⟨post, hpost⟩ := hpre
        exact ⟨[], post, ⟨hpost, fun _ _ _ => Nat.zero_le _⟩, rfl⟩
      · rw [locateFrom_cons c i hpre] at h
        obtain ⟨pre, post, hfirst, hk⟩ := ih h
        refine ⟨c :: pre, post, ⟨by rw [hfirst.split]; rfl, ?_⟩, ?_⟩
        · intro pre' post' heq
          cases pre' with
          | nil => exact absurd ⟨post', heq⟩ hpre
          | cons d pre' =>
              rw [List.cons_append, List.cons.injEq] at heq
              have := hfirst.first pre' post' heq.2
              simp only [List.length_cons]
              omega
        · rw [hk, List.length_cons]
          omega

theorem locateFrom_none {pat s : List α} {i : Nat} (h : locateFrom pat s i = none) :
    ¬ Occurs pat s := by
  induction s generalizing i with
  | nil =>
      rintro ⟨pre, post, heq⟩
      have hpat : pat = [] := by
        have := congrArg List.length heq
        simp only [List.length_nil, List.length_append] at this
        exact List.length_eq_zero_iff.mp (by omega)
      rw [locateFrom, if_pos hpat] at h
      cases h
  | cons c s ih =>
      by_cases hpre : ∃ post, c :: s = pat ++ post
      · rw [locateFrom, if_pos (isPrefixOf_iff_append.mpr hpre)] at h
        cases h
      · rw [locateFrom_cons c i hpre] at h
        rintro ⟨pre, post, heq⟩
        cases pre with
        | nil => exact hpre ⟨post, heq⟩
        | cons d pre =>
            rw [List.cons_append, List.cons.injEq] at heq
            exact ih h ⟨pre, post, heq.2⟩

theorem locate_some {pat s : List α} {k : Nat} (h : locate pat s = some k) :
    ∃ pre post, FirstAt pat s pre post ∧ k = pre.length := by
  obtain ⟨pre, post, hfirst, hk⟩ := locateFrom_some h
  exact ⟨pre, post, hfirst, by omega⟩

theorem locate_none {pat s : List α} (h : locate pat s = none) : ¬ Occurs pat s :=
  locateFrom_none h

theorem FirstAt.locate {pat s pre post : List α} (h : FirstAt pat s pre post) :
    locate pat s = some pre.length := by
  cases hloc : TextSearch.locate pat s with
  | none => exact absurd h.occurs (locate_none hloc)
  | some k =>
      obtain ⟨pre', post', h', rfl⟩ := locate_some hloc
      rw [(h.unique h').1]

theorem Occurs.exists_firstAt {pat s : List α} (h : Occurs pat s) :
    ∃ pre post, FirstAt pat s pre post := by
  cases hloc : TextSearch.locate pat s with
  | none => exact absurd h (locate_none hloc)
  | some k =>
      obtain ⟨pre, post, hfirst, -⟩ := locate_some hloc
      exact ⟨pre, post, hfirst⟩

theorem Occurs.exists_afterLast {pat s : List α} (hpat : pat ≠ []) (h : Occurs pat s) :
    ∃ post, AfterLast pat s post := by
  have hpos := List.length_pos_of_ne_nil hpat
  induction hlen : s.length using Nat.strong_induction_on generalizing s with
  | _ n ih =>
      obtain ⟨pre, post, hfirst⟩ := h.exists_firstAt
      by_cases hagain : Occurs pat post
      · have hlength := hfirst.length
        obtain ⟨end', hend⟩ := ih post.length (by omega) hagain rfl
        exact ⟨end', .more hfirst hend⟩
      · exact ⟨post, .last hfirst hagain⟩

/-- A text that does not overlap itself is found where the list ends in it. -/
theorem Unbordered.afterLast {text : List α} (h : Unbordered text) (hne : text ≠ [])
    (pre : List α) : AfterLast text (pre ++ text) [] := by
  have hpos := List.length_pos_of_ne_nil hne
  induction hlen : pre.length using Nat.strong_induction_on generalizing pre with
  | _ n ih =>
      have hocc : Occurs text (pre ++ text) := ⟨pre, [], by rw [List.append_nil]⟩
      obtain ⟨p, q, hfirst⟩ := hocc.exists_firstAt
      by_cases hq : q = []
      · subst hq
        refine .last hfirst ?_
        rintro ⟨a, b, heq⟩
        simp [hne] at heq
      · obtain ⟨r, hpre, rfl⟩ := h.apart hq hfirst.split.symm
        have hlength := congrArg List.length hpre
        simp only [List.length_append] at hlength
        exact .more hfirst (ih r.length (by omega) r rfl)

/-- A position where the pattern is and before which it is not. -/
theorem locate_eq_some {pat s : List α} {i : Nat} (hi : i + pat.length ≤ s.length)
    (hat : (s.drop i).take pat.length = pat)
    (hbefore : ∀ j, j < i → (s.drop j).take pat.length ≠ pat) : locate pat s = some i := by
  have hsplit : s = s.take i ++ (pat ++ s.drop (i + pat.length)) := by
    calc
      s = s.take i ++ s.drop i := (List.take_append_drop i s).symm
      _ = s.take i ++ (pat ++ s.drop (i + pat.length)) := by
        rw [← List.take_append_drop pat.length (s.drop i), hat, List.drop_drop]
  have hlen : (s.take i).length = i := by
    rw [List.length_take]
    omega
  have hfirst : FirstAt pat s (s.take i) (s.drop (i + pat.length)) := by
    refine ⟨hsplit, fun pre post heq => ?_⟩
    rw [hlen]
    by_contra hlt
    apply hbefore pre.length (by omega)
    rw [heq, List.drop_left, List.take_left]
  rw [hfirst.locate, hlen]

theorem locate_eq_none {pat s : List α}
    (h : ∀ j, j + pat.length ≤ s.length → (s.drop j).take pat.length ≠ pat) :
    locate pat s = none := by
  cases hloc : locate pat s with
  | none => rfl
  | some i =>
      obtain ⟨pre, post, hfirst, -⟩ := locate_some hloc
      have hsplit := hfirst.split
      have hlen := hfirst.length
      refine absurd ?_ (h pre.length (by omega))
      rw [hsplit, List.drop_left, List.take_left]

/-! ## The scan from the right -/

/-- The position of the last occurrence. -/
def locateLast (pat s : List α) : Option Nat :=
  (locate pat.reverse s.reverse).map fun i => s.length - pat.length - i

omit [DecidableEq α] in
/-- A part of a list, read backwards. -/
theorem reverse_part {s : List α} {i n : Nat} (h : i + n ≤ s.length) :
    (s.reverse.drop i).take n = ((s.drop (s.length - n - i)).take n).reverse := by
  apply List.ext_getElem
  · simp only [List.length_take, List.length_drop, List.length_reverse]
    omega
  · intro j h1 h2
    simp only [List.length_take, List.length_drop, List.length_reverse] at h1 h2
    simp only [List.getElem_take, List.getElem_drop, List.getElem_reverse, List.length_take,
      List.length_drop]
    congr 1
    omega

theorem locate_le {pat s : List α} {i : Nat} (h : locate pat s = some i) :
    i + pat.length ≤ s.length := by
  obtain ⟨pre, post, hfirst, rfl⟩ := locate_some h
  have hlen := hfirst.length
  omega

theorem locateLast_le {pat s : List α} {i : Nat} (h : locateLast pat s = some i) :
    i + pat.length ≤ s.length := by
  obtain ⟨j, hloc, rfl⟩ := Option.map_eq_some_iff.mp h
  have hle := locate_le hloc
  rw [List.length_reverse, List.length_reverse] at hle
  omega

/-- A position where the pattern is and behind which it is not. -/
theorem locateLast_eq_some {pat s : List α} {i : Nat} (hi : i + pat.length ≤ s.length)
    (hat : (s.drop i).take pat.length = pat)
    (hbehind : ∀ j, i < j → j + pat.length ≤ s.length → (s.drop j).take pat.length ≠ pat) :
    locateLast pat s = some i := by
  have hloc : locate pat.reverse s.reverse = some (s.length - pat.length - i) := by
    apply locate_eq_some
    · rw [List.length_reverse, List.length_reverse]
      omega
    · rw [List.length_reverse, reverse_part (by omega)]
      rw [show s.length - pat.length - (s.length - pat.length - i) = i by omega, hat]
    · intro j hj heq
      rw [List.length_reverse, reverse_part (by omega), List.reverse_inj] at heq
      exact hbehind _ (by omega) (by omega) heq
  rw [locateLast, hloc, Option.map_some]
  congr 1
  omega

theorem locateLast_eq_none {pat s : List α}
    (h : ∀ j, j + pat.length ≤ s.length → (s.drop j).take pat.length ≠ pat) :
    locateLast pat s = none := by
  have hloc : locate pat.reverse s.reverse = none := by
    apply locate_eq_none
    intro j hj heq
    rw [List.length_reverse, List.length_reverse] at hj
    rw [List.length_reverse, reverse_part (by omega), List.reverse_inj] at heq
    exact h _ (by omega) heq
  rw [locateLast, hloc, Option.map_none]

end Vsftpd.Lib.TextSearch
