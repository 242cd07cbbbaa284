import Vsftpd.Ls.DenyFile
import Vsftpd.Ls.FilterBudget

/-!
# What a filter's text matches

A filter need not be in the documented syntax: a brace may be left open, and groups may
be nested.  `FilterOutcome` says for every text what one greedy pass comes to and how many turns
it takes; a name is matched where the pass succeeds before the budget is used up.
-/

namespace Vsftpd

open Vsftpd.Lib.TextSearch

def operators : List UInt8 := [star, question, openBrace]

/-- A filter's text up to its first operator, the operator and what follows; the
operator is 0 where there is none. -/
inductive Piece : Bytes → Bytes → UInt8 → Bytes → Prop
  | last {text} (hne : text ≠ []) (hplain : ∀ c ∈ text, c ∉ operators) : Piece text text 0 []
  | operator {text c rest} (hc : c ∈ operators) (hplain : ∀ c ∈ text, c ∉ operators) :
      Piece (text ++ c :: rest) text c rest

/-- A filter with the name it is to match, or the alternatives of a group with what
follows the group and with the rest of the name. -/
inductive Task where
  | filter (mustMatchAtCurrentPos : Bool) (lastToken : UInt8) (filter name : Bytes)
  | alternatives (list : List Bytes) (rest name : Bytes)

/-- What one greedy pass comes to, and in how many turns. -/
inductive FilterOutcome (env : PathEnv) : Task → Bool → Nat → Prop
  | atEnd {must last name} :
      FilterOutcome env (.filter must last [] name) (decide (name = [] ∨ last = star)) 0
  | unplaced {must last filter name text operator rest} (hpiece : Piece filter text operator rest)
      (h : ∀ post, ¬ Placed must text name post) :
      FilterOutcome env (.filter must last filter name) false 1
  | text {must last filter name text post} (hpiece : Piece filter text 0 [])
      (h : Placed must text name post) :
      FilterOutcome env (.filter must last filter name) (decide (post = [])) 1
  | star {must last filter name text rest post passes turns} (hpiece : Piece filter text star rest)
      (h : Placed must text name post)
      (hrest : FilterOutcome env (.filter false Vsftpd.star rest post) passes turns) :
      FilterOutcome env (.filter must last filter name) passes (turns + 1)
  | any {must last filter name text rest c post passes turns}
      (hpiece : Piece filter text question rest) (h : Placed must text name (c :: post))
      (hrest : FilterOutcome env (.filter true question rest post) passes turns) :
      FilterOutcome env (.filter must last filter name) passes (turns + 1)
  | anyAtEnd {must last filter name text rest} (hpiece : Piece filter text question rest)
      (h : Placed must text name []) : FilterOutcome env (.filter must last filter name) false 1
  -- a group ends at the first closing brace
  | group {must last filter name text list rest post passes turns}
      (hpiece : Piece filter text openBrace (list ++ closeBrace :: rest))
      (hclose : closeBrace ∉ list) (h : Placed must text name post)
      (hlist : FilterOutcome env (.alternatives (list.splitOn comma) rest post) passes turns) :
      FilterOutcome env (.filter must last filter name) passes (turns + 1)
  -- a brace that is not closed stands for itself
  | brace {must last filter name text rest post passes turns}
      (hpiece : Piece filter text openBrace rest) (hopen : closeBrace ∉ rest)
      (h : Placed must text name (openBrace :: post))
      (hrest : FilterOutcome env (.filter true openBrace rest post) passes turns) :
      FilterOutcome env (.filter must last filter name) passes (turns + 1)
  | noBrace {must last filter name text rest post} (hpiece : Piece filter text openBrace rest)
      (hopen : closeBrace ∉ rest) (h : Placed must text name post)
      (hno : post.head? ≠ some openBrace) :
      FilterOutcome env (.filter must last filter name) false 1
  | noneLeft {rest name} : FilterOutcome env (.alternatives [] rest name) false 0
  | emptyOne {list rest name} : FilterOutcome env (.alternatives ([] :: list) rest name) false 0
  -- an alternative is tried on the rest of the name as a path of its own
  | missing {a list rest name passes turns} (ha : a ≠ [])
      (hno : ∀ resolved, env.realpath name ≠ .found resolved)
      (hlist : FilterOutcome env (.alternatives list rest name) passes turns) :
      FilterOutcome env (.alternatives (a :: list) rest name) passes turns
  | matched {a list rest name resolved turns} (ha : a ≠ [])
      (hresolved : env.realpath name = .found resolved)
      (h : FilterOutcome env (.filter true 0 (a ++ rest) (filterSubject env (a ++ rest) resolved))
        true turns) :
      FilterOutcome env (.alternatives (a :: list) rest name) true turns
  | unmatched {a list rest name resolved passes used turns} (ha : a ≠ [])
      (hresolved : env.realpath name = .found resolved)
      (h : FilterOutcome env (.filter true 0 (a ++ rest) (filterSubject env (a ++ rest) resolved))
        false used)
      (hlist : FilterOutcome env (.alternatives list rest name) passes turns) :
      FilterOutcome env (.alternatives (a :: list) rest name) passes (used + turns)

/-- The filter matches the file that resolves to `resolved`. -/
def Matched (env : PathEnv) (filter resolved : Bytes) : Prop :=
  ∃ turns < vsftpMatchitersMax,
    FilterOutcome env (.filter true 0 filter (filterSubject env filter resolved)) true turns

/-! ## Pieces -/

theorem Piece.nextToken {filter text rest : Bytes} {operator : UInt8}
    (h : Piece filter text operator rest) : nextToken filter = (text, rest, operator) := by
  cases h with
  | last hne hplain =>
      have hloc := @strLocateChars_append filter [] operators hplain
      rw [List.append_nil] at hloc
      rw [Vsftpd.nextToken, show [star, question, openBrace] = operators from rfl, hloc]
      rfl
  | operator hc hplain =>
      rw [Vsftpd.nextToken, show [star, question, openBrace] = operators from rfl,
        strLocateChars_append hplain, strLocateChars, if_pos hc]
      simp [strLeft, strMidToEnd]

theorem Piece.cons {filter text rest : Bytes} {operator c : UInt8}
    (h : Piece filter text operator rest) (hc : c ∉ operators) :
    Piece (c :: filter) (c :: text) operator rest := by
  cases h with
  | last hne hplain =>
      exact .last (List.cons_ne_nil c filter) (List.forall_mem_cons.mpr ⟨hc, hplain⟩)
  | operator ho hplain =>
      exact @Piece.operator (c :: text) _ rest ho (List.forall_mem_cons.mpr ⟨hc, hplain⟩)

theorem exists_piece {filter : Bytes} (hne : filter ≠ []) :
    ∃ text operator rest, Piece filter text operator rest := by
  induction filter with
  | nil => exact absurd rfl hne
  | cons c filter ih =>
      by_cases hc : c ∈ operators
      · exact ⟨[], c, filter, @Piece.operator [] c filter hc fun c hc => absurd hc List.not_mem_nil⟩
      by_cases hfilter : filter = []
      · subst hfilter
        exact ⟨[c], 0, [], .last hne (List.forall_mem_singleton.mpr hc)⟩
      · obtain ⟨text, operator, rest, hpiece⟩ := ih hfilter
        exact ⟨c :: text, operator, rest, hpiece.cons hc⟩

theorem Piece.ne_nil {filter text rest : Bytes} {operator : UInt8}
    (h : Piece filter text operator rest) : filter ≠ [] := by
  cases h with
  | last hne _ => exact hne
  | operator _ _ => simp

theorem Piece.cases_operator {filter text rest : Bytes} {operator : UInt8}
    (h : Piece filter text operator rest) :
    (operator = 0 ∧ rest = []) ∨ operator = star ∨ operator = question ∨ operator = openBrace := by
  cases h with
  | last _ _ => exact .inl ⟨rfl, rfl⟩
  | operator hc _ => exact .inr (by simpa [operators] using hc)

/-! ## The alternatives of a group -/

/-- How the source holds the alternatives that are left: the next one, and the text of
the others. -/
def Listed (split : Bytes × Bytes) (list : List Bytes) : Prop :=
  (split = ([], []) ∧ list = []) ∨
    ∃ s : Bytes, s.splitOn comma = list ∧ split = strSplitChar s comma

theorem listed_splitOn (s : Bytes) : Listed (strSplitChar s comma) (s.splitOn comma) :=
  .inr ⟨s, rfl, rfl⟩

theorem Listed.first_eq_nil {first temp : Bytes} (h : Listed (first, temp) []) : first = [] := by
  obtain ⟨hsplit, -⟩ | ⟨s, hs, -⟩ := h
  · exact congrArg Prod.fst hsplit
  · exact absurd hs (List.splitOn_ne_nil comma s)

theorem Listed.next {first temp a : Bytes} {list : List Bytes}
    (h : Listed (first, temp) (a :: list)) :
    first = a ∧ Listed (strSplitChar temp comma) list := by
  obtain ⟨-, hlist⟩ | ⟨s, hs, hsplit⟩ := h
  · cases hlist
  by_cases hcomma : comma ∈ s
  · obtain ⟨pre, post, rfl, hpre⟩ := List.eq_append_cons_of_mem hcomma
    rw [List.splitOn_append_cons_self_of_not_mem hpre, List.cons.injEq] at hs
    rw [strSplitChar_append (by decide) hpre] at hsplit
    cases hsplit
    exact ⟨hs.1, .inr ⟨temp, hs.2, rfl⟩⟩
  · rw [List.splitOn_eq_singleton hcomma, List.cons.injEq] at hs
    rw [strSplitChar_of_not_mem hcomma] at hsplit
    cases hsplit
    refine ⟨hs.1, .inl ⟨?_, hs.2.symm⟩⟩
    exact strSplitChar_of_not_mem List.not_mem_nil

theorem braceLoop_next {try' : Bytes → Nat → Bool × Nat} {first temp : Bytes} {iters : Nat}
    (n : Nat) (hfirst : first ≠ []) :
    braceLoop try' (n + 1) first temp iters =
      if (try' first iters).1 = true then (true, (try' first iters).2)
      else braceLoop try' n (strSplitChar temp comma).1 (strSplitChar temp comma).2
        (try' first iters).2 := by
  have hempty : ¬ strIsempty first = true := by
    rw [strIsempty, List.isEmpty_iff]
    exact hfirst
  rw [braceLoop, if_neg hempty]
  cases htried : try' first iters with
  | mk passes i =>
      cases passes with
      | true => rfl
      | false => rfl

theorem braceLoop_nil {try' : Bytes → Nat → Bool × Nat} {iters : Nat} (n : Nat) (temp : Bytes) :
    braceLoop try' n [] temp iters = (false, iters) := by
  cases n <;> rfl

theorem braceLoop_outcome {env : PathEnv} {rest name : Bytes} {low : Nat}
    {try' : Bytes → Nat → Bool × Nat} (hmono : ∀ a i, i ≤ (try' a i).2)
    (htry : ∀ a list i, low ≤ i → a ≠ [] → (try' a i).2 < vsftpMatchitersMax →
      ∃ used, (try' a i).2 = i + used ∧
        ((try' a i).1 = true → FilterOutcome env (.alternatives (a :: list) rest name) true used) ∧
        ((try' a i).1 = false → ∀ passes turns,
          FilterOutcome env (.alternatives list rest name) passes turns →
          FilterOutcome env (.alternatives (a :: list) rest name) passes (used + turns)))
    (n : Nat) (first temp : Bytes) (list : List Bytes) (hlist : Listed (first, temp) list)
    (hn : first.length + temp.length < n) (iters : Nat) (hlow : low ≤ iters)
    (hbudget : (braceLoop try' n first temp iters).2 < vsftpMatchitersMax) :
    ∃ turns, (braceLoop try' n first temp iters).2 = iters + turns ∧
      FilterOutcome env (.alternatives list rest name)
        (braceLoop try' n first temp iters).1 turns := by
  induction n generalizing first temp list iters with
  | zero => exact absurd hn (Nat.not_lt_zero _)
  | succ n ih =>
      by_cases hfirst : first = []
      · subst hfirst
        rw [braceLoop_nil]
        refine ⟨0, rfl, ?_⟩
        cases list with
        | nil => exact .noneLeft
        | cons a list =>
            rw [← hlist.next.1]
            exact .emptyOne
      cases list with
      | nil => exact absurd hlist.first_eq_nil hfirst
      | cons a list =>
          obtain ⟨rfl, hrest⟩ := hlist.next
          have hpos : 0 < first.length := List.length_pos_of_ne_nil hfirst
          have hshorter := length_strSplitChar temp comma
          have hle := Nat.le_trans hlow (hmono first iters)
          rw [braceLoop_next n hfirst] at hbudget ⊢
          by_cases hpass : (try' first iters).1 = true
          · rw [if_pos hpass] at hbudget ⊢
            obtain ⟨used, hused, hpasses, -⟩ := htry first list iters hlow hfirst hbudget
            exact ⟨used, hused, hpasses hpass⟩
          · rw [if_neg hpass] at hbudget ⊢
            have hi := Nat.lt_of_le_of_lt (le_braceLoop hmono n _ _ _) hbudget
            obtain ⟨used, hused, -, hfails⟩ := htry first list iters hlow hfirst hi
            obtain ⟨turns, hturns, hout⟩ := ih (strSplitChar temp comma).1
              (strSplitChar temp comma).2 list hrest (by omega) _ hle hbudget
            refine ⟨used + turns, ?_, hfails (Bool.eq_false_iff.mpr hpass) _ _ hout⟩
            rw [hturns, hused, Nat.add_assoc]

/-! ## The loop -/

section
variable (env : PathEnv) (fuel : Nat)

/-- The loop behind a piece of text that has been placed. -/
def afterPiece (operator : UInt8) (rest post : Bytes) (iters : Nat) : Bool × Nat :=
  if operator = question then
    match post with
    | [] => (false, iters)
    | _ :: post => filterLoop env fuel rest post true operator iters
  else if operator = openBrace then
    match strLocateChar rest closeBrace with
    | some _ =>
      let (list, rest) := strSplitChar rest closeBrace
      let (first, temp) := strSplitChar list comma
      braceLoop (tryAlternative env (fun iters => (false, iters)) (filterLoop env fuel) rest post)
        (list.length + 1) first temp iters
    | none =>
      match post with
      | [] => (false, iters)
      | c :: post =>
        if c ≠ openBrace then (false, iters)
        else filterLoop env fuel rest post true operator iters
  else filterLoop env fuel rest post false operator iters

end

variable {env : PathEnv} {fuel : Nat} {filter text rest name post : Bytes} {operator : UInt8}
  {must : Bool} {last : UInt8} {iters : Nat}

theorem filterLoop_piece (hpiece : Piece filter text operator rest)
    (hbudget : iters < vsftpMatchitersMax) :
    filterLoop env (fuel + 1) filter name must last iters =
      match matchNeeded must text name with
      | none => (false, iters + 1)
      | some post => afterPiece env fuel operator rest post (iters + 1) := by
  have hgoOn : ¬ (strIsempty filter = true ∨ iters ≥ vsftpMatchitersMax) := by
    rintro (h | h)
    · exact hpiece.ne_nil (List.isEmpty_iff.mp h)
    · omega
  rw [filterLoop_succ, if_neg hgoOn, filterTurn, hpiece.nextToken]
  rfl

theorem filterLoop_placed (hpiece : Piece filter text operator rest)
    (hbudget : iters < vsftpMatchitersMax) (h : Placed must text name post) :
    filterLoop env (fuel + 1) filter name must last iters =
      afterPiece env fuel operator rest post (iters + 1) := by
  rw [filterLoop_piece hpiece hbudget, matchNeeded_eq_some.mpr h]

theorem filterLoop_unplaced (hpiece : Piece filter text operator rest)
    (hbudget : iters < vsftpMatchitersMax) (h : ∀ post, ¬ Placed must text name post) :
    filterLoop env (fuel + 1) filter name must last iters = (false, iters + 1) := by
  have hnone : matchNeeded must text name = none := by
    cases hplace : matchNeeded must text name with
    | none => rfl
    | some post => exact absurd (matchNeeded_eq_some.mp hplace) (h post)
  rw [filterLoop_piece hpiece hbudget, hnone]

theorem afterPiece_goOn (h1 : operator ≠ question) (h2 : operator ≠ openBrace) :
    afterPiece env fuel operator rest post iters =
      filterLoop env fuel rest post false operator iters := by
  unfold afterPiece
  rw [if_neg h1, if_neg h2]

theorem afterPiece_any (c : UInt8) :
    afterPiece env fuel question rest (c :: post) iters =
      filterLoop env fuel rest post true question iters := rfl

theorem afterPiece_group {list : Bytes} (hclose : closeBrace ∉ list) :
    afterPiece env fuel openBrace (list ++ closeBrace :: rest) post iters =
      braceLoop (tryAlternative env (fun iters => (false, iters)) (filterLoop env fuel) rest post)
        (list.length + 1) (strSplitChar list comma).1 (strSplitChar list comma).2 iters := by
  have hfound : strLocateChar (list ++ closeBrace :: rest) closeBrace = some list.length := by
    rw [strLocateChar, ministr_eq (by decide), strLocateText_eq (by simp)]
    exact (firstAt_singleton hclose).locate
  unfold afterPiece
  rw [if_neg (by decide), if_pos rfl, hfound]
  dsimp only
  rw [strSplitChar_append (by decide) hclose]

theorem strLocateChar_closeBrace (hopen : closeBrace ∉ rest) :
    strLocateChar rest closeBrace = none := by
  rw [← Option.not_isSome_iff_eq_none, strLocateChar_isSome (by decide)]
  exact hopen

theorem afterPiece_brace (hopen : closeBrace ∉ rest) :
    afterPiece env fuel openBrace rest (openBrace :: post) iters =
      filterLoop env fuel rest post true openBrace iters := by
  unfold afterPiece
  rw [if_neg (by decide), if_pos rfl, strLocateChar_closeBrace hopen]
  rfl

theorem afterPiece_noBrace (hopen : closeBrace ∉ rest) (hno : post.head? ≠ some openBrace) :
    afterPiece env fuel openBrace rest post iters = (false, iters) := by
  unfold afterPiece
  rw [if_neg (by decide), if_pos rfl, strLocateChar_closeBrace hopen]
  cases post with
  | nil => rfl
  | cons c post =>
      have hc : c ≠ openBrace := fun heq => hno (congrArg some heq)
      dsimp only
      rw [if_pos hc]

/-- What the loop from a given count on is to come to. -/
def LoopOutcome (env : PathEnv) (fuel low : Nat) : Prop :=
  ∀ filter name must last iters, low ≤ iters →
    (filterLoop env fuel filter name must last iters).2 < vsftpMatchitersMax →
    ∃ turns, (filterLoop env fuel filter name must last iters).2 = iters + turns ∧
      FilterOutcome env (.filter must last filter name)
        (filterLoop env fuel filter name must last iters).1 turns

theorem tryAlternative_resolved {resolved : Bytes} (h : env.realpath name = .found resolved)
    (a : Bytes) :
    tryAlternative env (fun iters => (false, iters)) (filterLoop env fuel) rest name a iters =
      filterLoop env fuel (a ++ rest) (filterSubject env (a ++ rest) resolved) true 0 iters := by
  rw [tryAlternative, vsfSysutilRealpath_eq_some.mpr h]

theorem tryAlternative_missing (h : ∀ resolved, env.realpath name ≠ .found resolved) (a : Bytes) :
    tryAlternative env (fun iters => (false, iters)) (filterLoop env fuel) rest name a iters =
      (false, iters) := by
  rw [tryAlternative]
  cases hres : vsfSysutilRealpath env name true with
  | none => rfl
  | some resolved => exact absurd (vsfSysutilRealpath_eq_some.mp hres) (h resolved)

theorem tryAlternative_le (env : PathEnv) (fuel : Nat) (rest name a : Bytes) (i : Nat) :
    i ≤ (tryAlternative env (fun iters => (false, iters)) (filterLoop env fuel)
      rest name a i).2 := by
  unfold tryAlternative
  cases vsfSysutilRealpath env name true with
  | none => exact Nat.le_refl i
  | some resolved => exact le_filterLoop env _ _ _ _ _ i

theorem tryAlternative_outcome {low : Nat} (hnext : LoopOutcome env fuel low) (a : Bytes)
    (list : List Bytes) (i : Nat) (hlow : low ≤ i) (ha : a ≠ [])
    (hbudget : (tryAlternative env (fun iters => (false, iters)) (filterLoop env fuel) rest name a
      i).2 < vsftpMatchitersMax) :
    ∃ used,
      (tryAlternative env (fun iters => (false, iters)) (filterLoop env fuel) rest name a i).2 =
        i + used ∧
      ((tryAlternative env (fun iters => (false, iters)) (filterLoop env fuel) rest name a i).1 =
        true → FilterOutcome env (.alternatives (a :: list) rest name) true used) ∧
      ((tryAlternative env (fun iters => (false, iters)) (filterLoop env fuel) rest name a i).1 =
        false → ∀ passes turns, FilterOutcome env (.alternatives list rest name) passes turns →
          FilterOutcome env (.alternatives (a :: list) rest name) passes (used + turns)) := by
  by_cases hres : ∃ resolved, env.realpath name = .found resolved
  · obtain ⟨resolved, hresolved⟩ := hres
    rw [tryAlternative_resolved hresolved a] at hbudget ⊢
    obtain ⟨used, hused, hout⟩ := hnext _ _ _ _ i hlow hbudget
    refine ⟨used, hused, fun hpass => ?_, fun hfail passes turns hlist => ?_⟩
    · rw [hpass] at hout
      exact .matched ha hresolved hout
    · rw [hfail] at hout
      exact .unmatched ha hresolved hout hlist
  · have hno : ∀ resolved, env.realpath name ≠ .found resolved :=
      fun resolved hresolved => hres ⟨resolved, hresolved⟩
    rw [tryAlternative_missing hno a]
    refine ⟨0, rfl, fun h => absurd h Bool.false_ne_true, fun _ passes turns hlist => ?_⟩
    rw [Nat.zero_add]
    exact .missing ha hno hlist

theorem exists_fuel (hfuel : vsftpMatchitersMax < fuel + iters)
    (hiters : iters < vsftpMatchitersMax) : ∃ m, fuel = m + 1 := ⟨fuel - 1, by omega⟩

/-- Within the budget the loop does what a pass over the text does. -/
theorem filterLoop_outcome (env : PathEnv) (fuel : Nat) (filter name : Bytes) (must : Bool)
    (last : UInt8) (iters : Nat) (hfuel : vsftpMatchitersMax < fuel + iters)
    (hbudget : (filterLoop env fuel filter name must last iters).2 < vsftpMatchitersMax) :
    ∃ turns, (filterLoop env fuel filter name must last iters).2 = iters + turns ∧
      FilterOutcome env (.filter must last filter name)
        (filterLoop env fuel filter name must last iters).1 turns := by
  induction fuel generalizing filter name must last iters with
  | zero =>
      have hiters : iters < vsftpMatchitersMax := hbudget
      omega
  | succ fuel ih =>
      have hiters := Nat.lt_of_le_of_lt (le_filterLoop env _ _ name must last iters) hbudget
      by_cases hne : filter = []
      · subst hne
        rw [filterLoop_nil env fuel name must last hiters]
        exact ⟨0, rfl, .atEnd⟩
      obtain ⟨text, operator, rest, hpiece⟩ := exists_piece hne
      by_cases hplace : ∃ post, Placed must text name post
      · obtain ⟨post, h⟩ := hplace
        rw [filterLoop_placed hpiece hiters h] at hbudget ⊢
        have hnext : LoopOutcome env fuel (iters + 1) :=
          fun f n m l i hlow => ih f n m l i (by omega)
        obtain ⟨rfl, rfl⟩ | rfl | rfl | rfl := hpiece.cases_operator
        · rw [afterPiece_goOn (by decide) (by decide)] at hbudget ⊢
          have hleft := Nat.lt_of_le_of_lt (le_filterLoop env _ _ _ _ _ _) hbudget
          obtain ⟨fuel, rfl⟩ := @exists_fuel fuel (iters + 1) (by omega) hleft
          rw [filterLoop_nil env fuel post false 0 hleft]
          refine ⟨1, rfl, ?_⟩
          have hend : (post = [] ∨ (0 : UInt8) = star) ↔ post = [] := or_iff_left (by decide)
          rw [decide_eq_decide.mpr hend]
          exact .text hpiece h
        · rw [afterPiece_goOn (by decide) (by decide)] at hbudget ⊢
          obtain ⟨turns, hturns, hout⟩ := hnext _ _ _ _ _ (Nat.le_refl _) hbudget
          exact ⟨turns + 1, by omega, .star hpiece h hout⟩
        · cases post with
          | nil => exact ⟨1, rfl, .anyAtEnd hpiece h⟩
          | cons c post =>
              rw [afterPiece_any] at hbudget ⊢
              obtain ⟨turns, hturns, hout⟩ := hnext _ _ _ _ _ (Nat.le_refl _) hbudget
              exact ⟨turns + 1, by omega, .any hpiece h hout⟩
        · by_cases hclose : closeBrace ∈ rest
          · obtain ⟨list, rest, rfl, hlist⟩ := List.eq_append_cons_of_mem hclose
            rw [afterPiece_group hlist] at hbudget ⊢
            obtain ⟨turns, hturns, hout⟩ := braceLoop_outcome
              (fun a i => tryAlternative_le env fuel rest post a i) (tryAlternative_outcome hnext)
              (list.length + 1) (strSplitChar list comma).1 (strSplitChar list comma).2 _
              (listed_splitOn list)
              (Nat.lt_succ_of_le (length_strSplitChar list comma)) (iters + 1) (Nat.le_refl _)
              hbudget
            exact ⟨turns + 1, by omega, .group hpiece hlist h hout⟩
          · by_cases hno : post.head? = some openBrace
            · obtain ⟨post, rfl⟩ := List.head?_eq_some_iff.mp hno
              rw [afterPiece_brace hclose] at hbudget ⊢
              obtain ⟨turns, hturns, hout⟩ := hnext _ _ _ _ _ (Nat.le_refl _) hbudget
              exact ⟨turns + 1, by omega, .brace hpiece hclose h hout⟩
            · rw [afterPiece_noBrace hclose hno]
              exact ⟨1, rfl, .noBrace hpiece hclose h hno⟩
      · rw [filterLoop_unplaced hpiece hiters fun post h => hplace ⟨post, h⟩]
        exact ⟨1, rfl, .unplaced hpiece fun post h => hplace ⟨post, h⟩⟩

/-- What a pass is to say about the loop and about the loop over alternatives, from any
count on that leaves it its turns. -/
def Obeyed (env : PathEnv) (passes : Bool) (turns : Nat) : Task → Prop
  | .filter must last filter name => ∀ fuel iters, vsftpMatchitersMax < fuel + iters →
    iters + turns < vsftpMatchitersMax →
    filterLoop env fuel filter name must last iters = (passes, iters + turns)
  | .alternatives list rest name => ∀ fuel n first temp iters, Listed (first, temp) list →
    first.length + temp.length < n → vsftpMatchitersMax < fuel + iters →
    iters + turns < vsftpMatchitersMax →
    braceLoop (tryAlternative env (fun iters => (false, iters)) (filterLoop env fuel) rest name)
      n first temp iters = (passes, iters + turns)

theorem FilterOutcome.obeyed {task : Task} {passes : Bool} {turns : Nat}
    (h : FilterOutcome env task passes turns) : Obeyed env passes turns task := by
  induction h with
  | atEnd =>
      intro fuel iters hfuel hturns
      obtain ⟨fuel, rfl⟩ := exists_fuel hfuel (by omega)
      exact filterLoop_nil env fuel _ _ _ hturns
  | unplaced hpiece h =>
      intro fuel iters hfuel hturns
      obtain ⟨fuel, rfl⟩ := exists_fuel hfuel (by omega)
      exact filterLoop_unplaced hpiece (by omega) h
  | @text must last filter name text post hpiece h =>
      intro fuel iters hfuel hturns
      obtain ⟨fuel, rfl⟩ := exists_fuel hfuel (by omega)
      obtain ⟨fuel, rfl⟩ := @exists_fuel fuel (iters + 1) (by omega) hturns
      have hend : (post = [] ∨ (0 : UInt8) = Vsftpd.star) ↔ post = [] := or_iff_left (by decide)
      rw [filterLoop_placed hpiece (by omega) h, afterPiece_goOn (by decide) (by decide),
        filterLoop_nil env fuel post false 0 hturns, decide_eq_decide.mpr hend]
  | @star must last filter name text rest post passes turns hpiece h _ ih =>
      intro fuel iters hfuel hturns
      obtain ⟨fuel, rfl⟩ := exists_fuel hfuel (by omega)
      rw [filterLoop_placed hpiece (by omega) h, afterPiece_goOn (by decide) (by decide),
        ih fuel (iters + 1) (by omega) (by omega), Nat.add_right_comm, Nat.add_assoc]
  | @any must last filter name text rest c post passes turns hpiece h _ ih =>
      intro fuel iters hfuel hturns
      obtain ⟨fuel, rfl⟩ := exists_fuel hfuel (by omega)
      rw [filterLoop_placed hpiece (by omega) h, afterPiece_any,
        ih fuel (iters + 1) (by omega) (by omega), Nat.add_right_comm, Nat.add_assoc]
  | anyAtEnd hpiece h =>
      intro fuel iters hfuel hturns
      obtain ⟨fuel, rfl⟩ := exists_fuel hfuel (by omega)
      rw [filterLoop_placed hpiece (by omega) h]
      rfl
  | @group must last filter name text list rest post passes turns hpiece hclose h _ ih =>
      intro fuel iters hfuel hturns
      obtain ⟨fuel, rfl⟩ := exists_fuel hfuel (by omega)
      have hlength := Nat.lt_succ_of_le (length_strSplitChar list comma)
      rw [filterLoop_placed hpiece (by omega) h, afterPiece_group hclose,
        ih fuel (list.length + 1) (strSplitChar list comma).1 (strSplitChar list comma).2
          (iters + 1) (listed_splitOn list) hlength (by omega) (by omega),
        Nat.add_right_comm, Nat.add_assoc]
  | @brace must last filter name text rest post passes turns hpiece hopen h _ ih =>
      intro fuel iters hfuel hturns
      obtain ⟨fuel, rfl⟩ := exists_fuel hfuel (by omega)
      rw [filterLoop_placed hpiece (by omega) h, afterPiece_brace hopen,
        ih fuel (iters + 1) (by omega) (by omega), Nat.add_right_comm, Nat.add_assoc]
  | noBrace hpiece hopen h hno =>
      intro fuel iters hfuel hturns
      obtain ⟨fuel, rfl⟩ := exists_fuel hfuel (by omega)
      rw [filterLoop_placed hpiece (by omega) h, afterPiece_noBrace hopen hno]
  | noneLeft =>
      intro fuel n first temp iters hlist _ _ _
      rw [hlist.first_eq_nil]
      exact braceLoop_nil n temp
  | emptyOne =>
      intro fuel n first temp iters hlist _ _ _
      rw [hlist.next.1]
      exact braceLoop_nil n temp
  | missing ha hno _ ih =>
      intro fuel n first temp iters hlist hn hfuel hturns
      obtain ⟨n, rfl⟩ : ∃ m, n = m + 1 := ⟨n - 1, by omega⟩
      obtain ⟨rfl, hrest⟩ := hlist.next
      have hpos := List.length_pos_of_ne_nil ha
      have hshorter := length_strSplitChar temp comma
      rw [braceLoop_next n ha, tryAlternative_missing hno, if_neg Bool.false_ne_true]
      exact ih fuel n _ _ iters hrest (by omega) hfuel hturns
  | matched ha hresolved _ ih =>
      intro fuel n first temp iters hlist hn hfuel hturns
      obtain ⟨n, rfl⟩ : ∃ m, n = m + 1 := ⟨n - 1, by omega⟩
      obtain ⟨rfl, -⟩ := hlist.next
      rw [braceLoop_next n ha, tryAlternative_resolved hresolved, ih fuel iters hfuel hturns,
        if_pos rfl]
  | unmatched ha hresolved _ _ ih ihlist =>
      intro fuel n first temp iters hlist hn hfuel hturns
      obtain ⟨n, rfl⟩ : ∃ m, n = m + 1 := ⟨n - 1, by omega⟩
      obtain ⟨rfl, hrest⟩ := hlist.next
      have hpos := List.length_pos_of_ne_nil ha
      have hshorter := length_strSplitChar temp comma
      rw [braceLoop_next n ha, tryAlternative_resolved hresolved, ih fuel iters hfuel (by omega),
        if_neg Bool.false_ne_true, ← Nat.add_assoc]
      exact ihlist fuel n _ _ _ hrest (by omega) (by omega) (by omega)

/-- A name that resolves passes exactly the filters that match it. -/
theorem vsfFilenamePassesFilter_iff_matched {resolved : Bytes}
    (h : env.realpath name = .found resolved) (filter : Bytes) :
    (vsfFilenamePassesFilter env name filter 0).1 = true ↔ Matched env filter resolved := by
  unfold vsfFilenamePassesFilter
  rw [vsfSysutilRealpath_eq_some.mpr h]
  dsimp only
  constructor
  · intro hpass
    obtain ⟨run, -, hspent, hplain⟩ := filterTurns_tallies env (vsftpMatchitersMax + 1) filter
      (filterSubject env filter resolved) true 0 0 (by omega) (Nat.zero_le _)
    have hbudget : (filterLoop env (vsftpMatchitersMax + 1) filter
        (filterSubject env filter resolved) true 0 0).2 < vsftpMatchitersMax := by
      rw [hplain] at hpass ⊢
      exact hspent.passes hpass
    obtain ⟨turns, hturns, hout⟩ := filterLoop_outcome env (vsftpMatchitersMax + 1) filter _ true 0
      0 (by omega) hbudget
    rw [hpass] at hout
    exact ⟨turns, by omega, hout⟩
  · rintro ⟨turns, hturns, hout⟩
    rw [hout.obeyed (vsftpMatchitersMax + 1) 0 (by omega) (by omega)]

end Vsftpd
