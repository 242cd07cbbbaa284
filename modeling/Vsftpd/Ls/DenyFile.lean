import Vsftpd.Ls.DenyPattern

/-!
# When a denied name is denied

The filter's loops against `Greedy`, and from there when `deny_file` covers the
names its pattern matches.
-/

namespace Vsftpd

open Vsftpd.Lib.TextSearch Vsftpd.Lib.Glob

/-! ## Placing a piece of text -/

theorem scanForward_add (needed : Bytes) (n : Nat) (s : Bytes) (base index : Nat) :
    scanForward needed n s (base + index) = base + scanForward needed n s index := by
  induction n generalizing s index with
  | zero => rfl
  | succ n ih =>
      rw [scanForward, scanForward]
      cases strLocateStr s needed with
      | none => rfl
      | some found =>
          show scanForward needed n _ (base + index + found + needed.length) = _
          rw [show base + index + found + needed.length
              = base + (index + found + needed.length) by omega]
          exact ih _ _

theorem scanForward_afterLast {needed name pre post : Bytes} (hne : needed ≠ [])
    (h : FirstAt needed name pre post) {n : Nat} (hn : post.length ≤ n) :
    AfterLast needed name
      (name.drop (scanForward needed n post pre.length + needed.length)) := by
  have hdrop : name.drop (pre.length + needed.length) = post := by
    rw [h.split, ← List.append_assoc, ← List.length_append, List.drop_left]
  have hlen : 0 < needed.length := List.length_pos_of_ne_nil hne
  induction n generalizing name pre post with
  | zero =>
      have hpost : post = [] := List.length_eq_zero_iff.mp (by omega)
      rw [scanForward, hdrop]
      refine .last h ?_
      rw [hpost]
      rintro ⟨a, b, heq⟩
      simp [hne] at heq
  | succ n ih =>
      rw [scanForward, strLocateStr, strLocateText_eq hne]
      cases hloc : locate needed post with
      | none =>
          show AfterLast needed name (name.drop (pre.length + needed.length))
          rw [hdrop]
          exact .last h (locate_none hloc)
      | some found =>
          obtain ⟨pre', post', hfirst, rfl⟩ := locate_some hloc
          have hmid : strMidToEnd post (pre'.length + needed.length) = post' := by
            rw [strMidToEnd, hfirst.split, ← List.append_assoc, ← List.length_append,
              List.drop_left]
          have hlen' := hfirst.length
          have hind := ih hfirst (by omega) hmid
          refine .more h ?_
          dsimp only
          rw [hmid, show pre.length + pre'.length + needed.length
              = (pre.length + needed.length) + pre'.length by omega, scanForward_add,
            Nat.add_assoc, ← List.drop_drop, hdrop]
          exact hind

theorem matchNeeded_eq_some {must : Bool} {needed name post : Bytes} :
    matchNeeded must needed name = some post ↔ Placed must needed name post := by
  unfold matchNeeded Placed strIsempty
  by_cases hne : needed = []
  · rw [if_pos (by simp [hne]), if_pos hne, Option.some.injEq]
    exact eq_comm
  rw [if_neg (by simpa using hne), if_neg hne, strLocateStr, strLocateText_eq hne]
  cases hloc : locate needed name with
  | none =>
      have hno := locate_none hloc
      constructor
      · intro h
        cases h
      · intro h
        split_ifs at h
        · exact absurd ⟨[], post, h⟩ hno
        · exact absurd h.occurs hno
  | some index =>
      obtain ⟨pre, mid, hfirst, rfl⟩ := locate_some hloc
      have hdrop : name.drop (pre.length + needed.length) = mid := by
        rw [hfirst.split, ← List.append_assoc, ← List.length_append, List.drop_left]
      cases must with
      | true =>
          dsimp only
          by_cases hpos : pre.length > 0
          · rw [if_pos ⟨rfl, hpos⟩, if_pos rfl]
            constructor
            · intro h
              cases h
            · intro h
              have := hfirst.first [] post h
              simp only [List.length_nil] at this
              omega
          · rw [if_neg (fun h => hpos h.2), if_pos rfl, if_pos rfl, strMidToEnd, hdrop,
              Option.some.injEq]
            have hnil : pre = [] := List.length_eq_zero_iff.mp (by omega)
            have hsplit := hfirst.split
            rw [hnil, List.nil_append] at hsplit
            rw [hsplit, List.append_cancel_left_eq]
      | false =>
          have hafter := scanForward_afterLast hne hfirst (Nat.le_refl mid.length)
          dsimp only
          rw [if_neg (fun h => Bool.false_ne_true h.1), if_neg Bool.false_ne_true,
            if_neg Bool.false_ne_true, strMidToEnd, strMidToEnd, hdrop, Option.some.injEq]
          constructor
          · rintro rfl
            exact hafter
          · intro h
            exact hafter.unique h

/-! ## The next token -/

/-- The items behind a piece of text as the token they begin with. -/
def tokenOf : Pattern → Bytes × UInt8
  | [] => ([], 0)
  | .elem e :: rest => (render rest, elemByte e)
  | .group first others :: rest =>
    (joinAlternatives (first :: others) ++ closeBrace :: render rest, openBrace)

theorem nextToken_render {p : Pattern} (h : Documented p) :
    nextToken (render p) = ((leadingText p).1, tokenOf (leadingText p).2) := by
  have hsplit := render_leadingText p
  have hrest : ∀ c rest, (leadingText p).2 ≠ .elem (.lit c) :: rest :=
    fun c rest => leadingText_rest
  have htext := fun c hc => h.leadingText_mem (c := c) hc
  rw [hsplit]
  generalize (leadingText p).1 = text at htext
  generalize (leadingText p).2 = rest at hrest
  -- whatever the special character, what precedes it is `text`
  have hspecial : ∀ (c : UInt8) (tail : Bytes), c ∈ [star, question, openBrace] →
      render rest = c :: tail → tokenOf rest = (tail, c) →
      nextToken (text ++ render rest) = (text, tokenOf rest) := by
    intro c tail hc hr ht
    rw [nextToken, strLocateChars_append htext, ht, hr, strLocateChars, if_pos hc]
    simp [strLeft, strMidToEnd]
  cases rest with
  | nil =>
      rw [nextToken, strLocateChars_append htext]
      simp [render_nil, strLocateChars, tokenOf]
  | cons item rest =>
      cases item with
      | elem e =>
          cases e with
          | lit c => exact absurd rfl (hrest c rest)
          | any => exact hspecial question (render rest) (by simp) rfl rfl
          | star => exact hspecial star (render rest) (by simp) rfl rfl
      | group first others =>
          apply hspecial openBrace _ (by simp) _ rfl
          rw [render_cons, renderItem, List.cons_append, List.append_assoc]
          rfl

/-! ## The alternatives -/

theorem le_braceLoop {try' : Bytes → Nat → Bool × Nat} (hmono : ∀ a i, i ≤ (try' a i).2)
    (n : Nat) (braceList temp : Bytes) (iters : Nat) :
    iters ≤ (braceLoop try' n braceList temp iters).2 := by
  induction n generalizing braceList temp iters with
  | zero => exact Nat.le_refl iters
  | succ n ih =>
      rw [braceLoop]
      split_ifs
      · exact Nat.le_refl iters
      · have hle := hmono braceList iters
        match hr : try' braceList iters with
        | (true, i) =>
            rw [hr] at hle
            exact hle
        | (false, i) =>
            rw [hr] at hle
            exact Nat.le_trans hle (ih _ _ i)

theorem braceLoop_iff {try' : Bytes → Nat → Bool × Nat} {Passes : List PatternElem → Prop}
    {low : Nat} (hmono : ∀ a i, i ≤ (try' a i).2) (n : Nat) (first : List PatternElem)
    (others : List (List PatternElem)) (iters : Nat)
    (hgroup : ∀ a ∈ first :: others, ∀ e ∈ a, GroupElem e)
    (htry : ∀ a ∈ first :: others, ∀ i, low ≤ i → (try' (renderElems a) i).2 < vsftpMatchitersMax →
      ((try' (renderElems a) i).1 = true ↔ Passes a))
    (hn : others.length < n) (hlow : low ≤ iters)
    (hbudget : (braceLoop try' n (renderElems first) (joinAlternatives others) iters).2
      < vsftpMatchitersMax) :
    (braceLoop try' n (renderElems first) (joinAlternatives others) iters).1 = true ↔
      ∃ a ∈ (first :: others).takeWhile (fun a => !a.isEmpty), Passes a := by
  induction n generalizing first others iters with
  | zero => omega
  | succ n ih =>
      rw [braceLoop] at hbudget ⊢
      by_cases hempty : first = []
      · subst hempty
        simp [renderElems, strIsempty]
      · have hkeep : strIsempty (renderElems first) = false := by
          simpa [strIsempty, renderElems] using hempty
        rw [hkeep] at hbudget ⊢
        have hspec := htry first (by simp) iters hlow
        have hle := hmono (renderElems first) iters
        have htake : (first :: others).takeWhile (fun a => !a.isEmpty)
            = first :: others.takeWhile fun a => !a.isEmpty := by
          rw [List.takeWhile_cons, if_pos (by simpa using hempty)]
        rw [if_neg Bool.false_ne_true] at hbudget ⊢
        rw [htake]
        match hr : try' (renderElems first) iters with
        | (true, i) =>
            rw [hr] at hbudget hspec
            exact iff_of_true rfl ⟨first, by simp, (hspec hbudget).mp rfl⟩
        | (false, i) =>
            rw [hr] at hbudget hspec hle
            dsimp only at hbudget hspec hle ⊢
            have hfirst : ¬ Passes first := by
              intro hp
              have hi := Nat.lt_of_le_of_lt (le_braceLoop hmono n _ _ i) hbudget
              exact Bool.false_ne_true ((hspec hi).mpr hp)
            have hnext : (∃ a ∈ first :: others.takeWhile fun a => !a.isEmpty, Passes a) ↔
                ∃ a ∈ others.takeWhile fun a => !a.isEmpty, Passes a := by
              simp [hfirst]
            rw [hnext]
            cases others with
            | nil =>
                have hstop : (braceLoop try' n [] [] i).1 = false := by
                  cases n <;> rfl
                simp [joinAlternatives, strSplitChar_of_not_mem, hstop]
            | cons second others =>
                rw [strSplitChar_joinAlternatives others (hgroup second (by simp))]
                  at hbudget ⊢
                exact ih second others i (fun a ha => hgroup a (List.mem_cons_of_mem _ ha))
                  (fun a ha => htry a (List.mem_cons_of_mem _ ha))
                  (by rw [List.length_cons] at hn; omega) (by omega) hbudget

/-! ## The main loop -/

theorem le_filterLoop (env : PathEnv) (fuel : Nat) (filter name : Bytes) (must : Bool)
    (last : UInt8) (iters : Nat) :
    iters ≤ (filterLoop env fuel filter name must last iters).2 := by
  induction fuel generalizing filter name must last iters with
  | zero => exact Nat.le_refl iters
  | succ fuel ih =>
      rw [filterLoop]
      have hstep : ∀ f n m l, iters ≤ (filterLoop env fuel f n m l (iters + 1)).2 :=
        fun f n m l => Nat.le_trans (Nat.le_succ iters) (ih f n m l (iters + 1))
      by_cases hstop : strIsempty filter = true ∨ iters ≥ vsftpMatchitersMax
      · rw [if_pos hstop]
        split_ifs <;> exact Nat.le_refl iters
      rw [if_neg hstop]
      dsimp only
      cases matchNeeded must (nextToken filter).1 name with
      | none => exact Nat.le_succ iters
      | some nameRemain =>
          dsimp only
          by_cases hquestion : (nextToken filter).2.2 = question
          · rw [if_pos hquestion]
            cases nameRemain with
            | nil => exact Nat.le_succ iters
            | cons c nameRemain => exact hstep _ _ _ _
          rw [if_neg hquestion]
          by_cases hbrace : (nextToken filter).2.2 = openBrace
          · rw [if_pos hbrace]
            cases strLocateChar (nextToken filter).2.1 closeBrace with
            | none =>
                cases nameRemain with
                | nil => exact Nat.le_succ iters
                | cons c nameRemain =>
                    dsimp only
                    split_ifs
                    · exact Nat.le_succ iters
                    · exact hstep _ _ _ _
            | some _ =>
                refine Nat.le_trans (Nat.le_succ iters) (le_braceLoop ?_ _ _ _ _)
                intro a i
                cases vsfSysutilRealpath env nameRemain true with
                | none => exact Nat.le_refl i
                | some normalized => exact ih _ _ _ _ i
          · rw [if_neg hbrace]
            exact hstep _ _ _ _

/-- One more token, when something is left of the filter and of the budget. -/
theorem filterLoop_turn (env : PathEnv) (fuel : Nat) {p : Pattern} (hp : Documented p)
    (hne : p ≠ []) (name : Bytes) (must : Bool) (last : UInt8) {iters : Nat}
    (hbudget : iters < vsftpMatchitersMax) :
    filterLoop env (fuel + 1) (render p) name must last iters =
      match matchNeeded must (leadingText p).1 name, (leadingText p).2 with
      | none, _ => (false, iters + 1)
      | some nameRemain, [] => filterLoop env fuel [] nameRemain false 0 (iters + 1)
      | some nameRemain, .elem .any :: rest =>
        match nameRemain with
        | [] => (false, iters + 1)
        | _ :: nameRemain => filterLoop env fuel (render rest) nameRemain true question (iters + 1)
      | some nameRemain, .elem _ :: rest =>
        filterLoop env fuel (render rest) nameRemain false star (iters + 1)
      | some nameRemain, .group first others :: rest =>
        braceLoop
          (fun alternative iters =>
            match vsfSysutilRealpath env nameRemain true with
            | none => (false, iters)
            | some normalized =>
              filterLoop env fuel (alternative ++ render rest)
                (filterSubject env (alternative ++ render rest) normalized) true 0 iters)
          ((joinAlternatives (first :: others)).length + 1) (renderElems first)
          (joinAlternatives others) (iters + 1) := by
  have hgoOn : ¬ (strIsempty (render p) = true ∨ iters ≥ vsftpMatchitersMax) := by
    rintro (h | h)
    · rw [strIsempty, List.isEmpty_iff, render_eq_nil] at h
      exact hne h
    · omega
  rw [filterLoop, if_neg hgoOn, nextToken_render hp]
  have hdoc := hp.leadingText_rest
  have hrest : ∀ c rest, (leadingText p).2 ≠ .elem (.lit c) :: rest :=
    fun c rest => leadingText_rest
  generalize (leadingText p).1 = text
  generalize (leadingText p).2 = rest at hrest hdoc
  dsimp only
  cases matchNeeded must text name with
  | none => rfl
  | some nameRemain =>
      cases rest with
      | nil => rfl
      | cons item rest =>
          cases item with
          | elem e =>
              cases e with
              | lit c => exact absurd rfl (hrest c rest)
              | any => rfl
              | star => rfl
          | group first others =>
              have hgroup : DocumentedItem (.group first others) := hdoc _ List.mem_cons_self
              have hclose := joinAlternatives_ne_closeBrace hgroup
              have hfound : strLocateChar (joinAlternatives (first :: others)
                  ++ closeBrace :: render rest) closeBrace
                  = some (joinAlternatives (first :: others)).length := by
                rw [strLocateChar, ministr_eq (by decide), strLocateText_eq (by simp)]
                exact (firstAt_singleton hclose).locate
              dsimp only [tokenOf]
              rw [hfound]
              dsimp only
              rw [strSplitChar_append (by decide) hclose]
              dsimp only
              rewrite [strSplitChar_joinAlternatives others (hgroup first List.mem_cons_self)]
              rfl

/-- With nothing left of the filter the name must be used up, except behind a star. -/
theorem filterLoop_nil (env : PathEnv) (fuel : Nat) (name : Bytes) (must : Bool) (last : UInt8)
    {iters : Nat} (hbudget : iters < vsftpMatchitersMax) :
    filterLoop env (fuel + 1) [] name must last iters =
      (decide (name = [] ∨ last = star), iters) := by
  have hkept : iters ≠ vsftpMatchitersMax := Nat.ne_of_lt hbudget
  rw [filterLoop, if_pos (.inl rfl)]
  by_cases hname : name = []
  · simp [hname, hkept]
  · have hpos : name.length > 0 := List.length_pos_of_ne_nil hname
    by_cases hlast : last = star
    · simp [hlast, hkept]
    · rw [if_pos ⟨hpos, hlast⟩, decide_eq_false (by simp [hname, hlast])]

/-- What must hold of the rest of the name where the leading text ends. -/
def GreedyAfter (env : PathEnv) : Pattern → Bytes → Prop
  | [], post => post = []
  | .elem (.lit _) :: _, _ => False
  | .elem .any :: rest, post => ∃ c post', post = c :: post' ∧ Greedy env true rest post'
  | .elem .star :: rest, post => Greedy env false rest post
  | .group first others :: rest, post =>
    ∃ a ∈ (first :: others).takeWhile (fun a => !a.isEmpty),
      ∃ resolved, env.realpath post = .found resolved ∧
        Greedy env true (a.map .elem ++ rest)
          (filterSubject env (render (a.map .elem ++ rest)) resolved)

theorem greedy_iff {env : PathEnv} {must : Bool} {p : Pattern} {name : Bytes} (hne : p ≠ []) :
    Greedy env must p name ↔
      ∃ post, Placed must (leadingText p).1 name post ∧ GreedyAfter env (leadingText p).2 post := by
  constructor
  · intro h
    cases h with
    | done hp h =>
        rw [hp]
        exact ⟨[], h, rfl⟩
    | trailing => exact absurd rfl hne
    | star hp h hrest =>
        rw [hp]
        exact ⟨_, h, hrest⟩
    | any hp h hrest =>
        rw [hp]
        exact ⟨_, h, _, _, rfl, hrest⟩
    | group hp h ha hresolved hrest =>
        rw [hp]
        exact ⟨_, h, _, ha, _, hresolved, hrest⟩
  · rintro ⟨post, h, hafter⟩
    match hp : leadingText p with
    | (text, []) =>
        rw [hp] at h hafter
        rw [show post = [] from hafter] at h
        exact .done hp h
    | (text, .elem (.lit c) :: rest) =>
        rw [hp] at hafter
        exact hafter.elim
    | (text, .elem .any :: rest) =>
        rw [hp] at h hafter
        obtain ⟨c, post', rfl, hrest⟩ := hafter
        exact .any hp h hrest
    | (text, .elem .star :: rest) =>
        rw [hp] at h hafter
        exact .star hp h hafter
    | (text, .group first others :: rest) =>
        rw [hp] at h hafter
        obtain ⟨a, ha, resolved, hresolved, hrest⟩ := hafter
        exact .group hp h ha hresolved hrest

theorem greedy_nil {env : PathEnv} {must : Bool} {name : Bytes} :
    Greedy env must [] name ↔ name = [] ∨ must = false := by
  constructor
  · intro h
    cases h with
    | done hp h =>
        cases hp
        exact .inl h.symm
    | trailing => exact .inr rfl
    | star hp _ _ => cases hp
    | any hp _ _ => cases hp
    | group hp _ _ _ _ => cases hp
  · rintro (rfl | rfl)
    · exact .done rfl rfl
    · exact .trailing

theorem filterLoop_iff (env : PathEnv) (fuel : Nat) {p : Pattern} (hp : Documented p)
    (name : Bytes) {must : Bool} {last : UInt8} {iters : Nat} (hlast : must = false ↔ last = star)
    (hfuel : vsftpMatchitersMax < fuel + iters)
    (hbudget : (filterLoop env fuel (render p) name must last iters).2 < vsftpMatchitersMax) :
    (filterLoop env fuel (render p) name must last iters).1 = true ↔ Greedy env must p name := by
  induction fuel generalizing p name must last iters with
  | zero =>
      have hiters : iters < vsftpMatchitersMax := hbudget
      omega
  | succ fuel ih =>
      have hiters := Nat.lt_of_le_of_lt (le_filterLoop env _ _ name must last iters) hbudget
      by_cases hne : p = []
      · subst hne
        rw [render_nil, filterLoop_nil env fuel name must last hiters, decide_eq_true_iff,
          greedy_nil, hlast]
      rw [filterLoop_turn env fuel hp hne name must last hiters] at hbudget ⊢
      rw [greedy_iff hne]
      have hrest := hp.leadingText_rest
      have hlit : ∀ c q, (leadingText p).2 ≠ .elem (.lit c) :: q := fun c q => leadingText_rest
      generalize (leadingText p).1 = text at hbudget ⊢
      generalize (leadingText p).2 = rest at hbudget hrest hlit ⊢
      cases hplace : matchNeeded must text name with
      | none =>
          have hno : ∀ post, ¬ Placed must text name post := by
            intro post h
            rw [matchNeeded_eq_some.mpr h] at hplace
            cases hplace
          exact iff_of_false Bool.false_ne_true fun ⟨post, h, _⟩ => hno post h
      | some nameRemain =>
          have hplaced : ∀ post, Placed must text name post ↔ post = nameRemain := by
            intro post
            rw [← matchNeeded_eq_some, hplace, Option.some.injEq]
            exact eq_comm
          simp only [hplaced, exists_eq_left]
          rw [hplace] at hbudget
          match rest, hrest, hlit with
          | [], _, _ =>
              obtain ⟨fuel, rfl⟩ : ∃ m, fuel = m + 1 := ⟨fuel - 1, by omega⟩
              dsimp only at hbudget ⊢
              have hleft := Nat.lt_of_le_of_lt
                (le_filterLoop env _ _ nameRemain false 0 (iters + 1)) hbudget
              rw [filterLoop_nil env fuel nameRemain false 0 hleft, decide_eq_true_iff]
              exact or_iff_left (by decide)
          | .elem (.lit c) :: rest, _, hlit => exact absurd rfl (hlit c rest)
          | .elem .any :: rest, hrest, _ =>
              cases nameRemain with
              | nil => exact iff_of_false Bool.false_ne_true (by simp [GreedyAfter])
              | cons c nameRemain =>
                  have := ih hrest.tail nameRemain (iff_of_false (by decide) (by decide))
                    (by omega) hbudget
                  simpa [GreedyAfter] using this
          | .elem .star :: rest, hrest, _ =>
              exact ih hrest.tail nameRemain (iff_of_true rfl rfl) (by omega) hbudget
          | .group first others :: rest, hrest, _ =>
              have hgroup : DocumentedItem (.group first others) :=
                hrest _ List.mem_cons_self
              refine braceLoop_iff ?_ _ first others (iters + 1) hgroup ?_ ?_
                (Nat.le_refl (iters + 1)) hbudget
              · intro a i
                cases vsfSysutilRealpath env nameRemain true with
                | none => exact Nat.le_refl i
                | some normalized => exact le_filterLoop env _ _ _ _ _ i
              · intro a ha i hi hleft
                have hfilter : renderElems a ++ render rest = render (a.map .elem ++ rest) := by
                  rw [render_append, render_elems]
                cases hreal : vsfSysutilRealpath env nameRemain true with
                | none =>
                    refine iff_of_false Bool.false_ne_true ?_
                    rintro ⟨resolved, hresolved, -⟩
                    rw [vsfSysutilRealpath_eq_some.mpr hresolved] at hreal
                    cases hreal
                | some normalized =>
                    have hresolved := vsfSysutilRealpath_eq_some.mp hreal
                    have hdoc : Documented (a.map .elem ++ rest) := by
                      intro j hj
                      rcases List.mem_append.mp hj with hj | hj
                      · obtain ⟨e, he, rfl⟩ := List.mem_map.mp hj
                        exact (hgroup a ha e he).1
                      · exact hrest.tail j hj
                    rw [hreal] at hleft
                    dsimp only at hleft ⊢
                    rw [hfilter] at hleft ⊢
                    rw [ih hdoc _ (iff_of_false (by decide) (by decide)) (by omega) hleft]
                    constructor
                    · intro h
                      exact ⟨normalized, hresolved, h⟩
                    · rintro ⟨resolved, h, hgreedy⟩
                      rw [hresolved] at h
                      cases h
                      exact hgreedy
              · have := length_le_joinAlternatives first others
                omega

/-! ## The check -/

theorem filterSubject_canonical {env : PathEnv} {p : Pattern} (hp : Documented p) {name : Bytes}
    (h : Canonical env name) : filterSubject env (render p) name = patternTarget p name := by
  match name, h.absolute with
  | c :: name, habs =>
      have hc : c = slash := Option.some.inj habs
      subst hc
      match p with
      | [] => rfl
      | .elem (.lit d) :: p =>
          have hd := (hp _ List.mem_cons_self d rfl).2.2.2
          rw [render_cons]
          simp [filterSubject, renderItem, elemByte, patternTarget, hd]
      | .elem .any :: p => rfl
      | .elem .star :: p => rfl
      | .group first others :: p => rfl

theorem vsfFilenamePassesFilter_iff {env : PathEnv} {p : Pattern} (hp : Documented p)
    {name : Bytes} (hname : Canonical env name)
    (hbudget : (vsfFilenamePassesFilter env name (render p) 0).2 < vsftpMatchitersMax) :
    (vsfFilenamePassesFilter env name (render p) 0).1 = true ↔
      Greedy env true p (patternTarget p name) := by
  unfold vsfFilenamePassesFilter at hbudget ⊢
  rw [vsfSysutilRealpath_eq_some.mpr hname.resolves] at hbudget ⊢
  rw [← filterSubject_canonical hp hname]
  exact filterLoop_iff env _ hp _ (iff_of_false (by decide) (by decide)) (by omega) hbudget

theorem strLocateStr_isSome {s look : Bytes} :
    (strLocateStr s look).isSome = true ↔ look ≠ [] ∧ Occurs look s := by
  by_cases hne : look = []
  · rw [hne, strLocateStr, strLocateText_nil]
    simp
  · rw [strLocateStr, strLocateText_eq hne]
    cases hloc : locate look s with
    | none => simpa [hne] using locate_none hloc
    | some k =>
        obtain ⟨_, _, hfirst, -⟩ := locate_some hloc
        simpa [hne] using hfirst.occurs

theorem vsfAccessCheckFile_eq_false {env : PathEnv} {p : Pattern} (hp : Documented p)
    {name : Bytes} (hname : Canonical env name)
    (hbudget : (vsfFilenamePassesFilter env name (render p) 0).2 < vsftpMatchitersMax) :
    vsfAccessCheckFile env (some (render p)) name = false ↔ Found env p name := by
  have hpasses := vsfFilenamePassesFilter_iff hp hname hbudget
  rw [vsfAccessCheckFile, Bool.not_eq_false', vsfMatchFilter]
  by_cases h : (vsfFilenamePassesFilter env name (render p) 0).1 = true
  · rw [if_pos h]
    exact iff_of_true rfl (.inr (hpasses.mp h))
  · rw [if_neg h, strLocateStr_isSome]
    exact (or_iff_left fun hgreedy => h (hpasses.mpr hgreedy)).symm

theorem denyComplete_iff {env : PathEnv} {p : Pattern} (hp : Documented p) {name : Bytes}
    (hname : Canonical env name)
    (hbudget : (vsfFilenamePassesFilter env name (render p) 0).2 < vsftpMatchitersMax) :
    DenyComplete env p name ↔ (Denies p name → Found env p name) := by
  rw [DenyComplete, vsfAccessCheckFile_eq_false hp hname hbudget]

/-- A root directory with the one file `b.mov`. -/
def oneFile : PathEnv where
  realpath := fun path =>
    if path ∈ [bytes "/b.mov", bytes "b.mov"] then .found (bytes "/b.mov")
    else if path ∈ [bytes "/", bytes "."] then .found (bytes "/")
    else .enoent
  getcwd := bytes "/"

/-- `{*.mov,.private}` -/
def hideMovies : Pattern :=
  [.group (.star :: (bytes ".mov").map .lit) [(bytes ".private").map .lit]]

/-- `*?` -/
def atLeastOneChar : Pattern := [.elem .star, .elem .any]

theorem canonical_oneFile : Canonical oneFile (bytes "/b.mov") := ⟨by decide, by decide⟩

theorem groupElem_lits {s : Bytes}
    (h : (s.all fun c => c ∉ [0, star, question, openBrace, comma, closeBrace]) = true) :
    ∀ e ∈ s.map Elem.lit, GroupElem e := by
  intro e he
  obtain ⟨c, hc, rfl⟩ := List.mem_map.mp he
  have hplain := of_decide_eq_true (List.all_eq_true.mp h c hc)
  simp only [List.mem_cons, List.not_mem_nil, or_false, not_or] at hplain
  obtain ⟨h0, h1, h2, h3, h4, h5⟩ := hplain
  constructor
  · intro d hd
    cases hd
    exact ⟨h0, h1, h2, h3⟩
  · intro d hd
    cases hd
    exact ⟨h4, h5⟩

theorem groupElem_star : GroupElem .star := by
  constructor
  · intro c hc
    cases hc
  · intro c hc
    cases hc

theorem documented_hideMovies : Documented hideMovies := by
  unfold Documented hideMovies
  rw [List.forall_mem_singleton]
  show ∀ a ∈ [_, _], ∀ e ∈ a, GroupElem e
  simp only [List.forall_mem_cons, List.not_mem_nil, IsEmpty.forall_iff, implies_true, and_true]
  refine ⟨⟨groupElem_star, ?_⟩, ?_⟩
  · exact groupElem_lits (by decide)
  · exact groupElem_lits (by decide)

theorem denyComplete_iff_hideMovies :
    DenyComplete oneFile hideMovies (bytes "/b.mov") ↔
      (Denies hideMovies (bytes "/b.mov") → Found oneFile hideMovies (bytes "/b.mov")) := by
  exact denyComplete_iff documented_hideMovies canonical_oneFile (by decide)

/-- The wildcard `*` takes the whole name only at the end of a pattern: in `*?` it
takes nothing, and `b.mov` is not one character. -/
theorem atLeastOneChar_not_denyComplete :
    Documented atLeastOneChar ∧ Canonical oneFile (bytes "/b.mov") ∧
      (vsfFilenamePassesFilter oneFile (bytes "/b.mov") (render atLeastOneChar) 0).2
        < vsftpMatchitersMax ∧
      ¬ DenyComplete oneFile atLeastOneChar (bytes "/b.mov") := by
  refine ⟨?_, canonical_oneFile, by decide, ?_⟩
  · simp [Documented, DocumentedItem, atLeastOneChar, PlainElem]
  · intro h
    have hdenies : Denies atLeastOneChar (bytes "/b.mov") := by
      refine ⟨[.star, .any], by simp [atLeastOneChar, expansions], ?_⟩
      show Matches [.star, .any] (bytes "b.mo" ++ bytes "v")
      exact matches_star.mpr ⟨bytes "b.mo", bytes "v", rfl, .any _ .nil⟩
    exact absurd (h hdenies) (by decide)

end Vsftpd
