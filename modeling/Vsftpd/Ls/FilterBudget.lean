import Vsftpd.Ls.Filter

/-!
# The budget of the filter

The filter's loop with its turns counted, over all the calls for alternatives.  A turn
is a function of what comes after it, so that the loop with and without the count, and
the loop with more fuel, are compared turn by turn.
-/

namespace Vsftpd

/-! ## A turn -/

section
variable {α : Type} (env : PathEnv) (fail : Nat → α)
  (next : Bytes → Bytes → Bool → UInt8 → Nat → α)
  (braces : (Bytes → Nat → α) → Nat → Bytes → Bytes → Nat → α)

/-- The call for an alternative of a brace list, on the rest of the name. -/
def tryAlternative (filterRemain nameRemain alternative : Bytes) (iters : Nat) : α :=
  let newFilter := alternative ++ filterRemain
  match vsfSysutilRealpath env nameRemain true with
  | none => fail iters
  | some normalized => next newFilter (filterSubject env newFilter normalized) true 0 iters

/-- A turn of the main loop that has been counted. -/
def filterTurn (filterRemain nameRemain : Bytes) (mustMatch : Bool) (iters : Nat) : α :=
  let (needed, filterRemain, lastToken) := nextToken filterRemain
  match matchNeeded mustMatch needed nameRemain with
  | none => fail iters
  | some nameRemain =>
    if lastToken = question then
      match nameRemain with
      | [] => fail iters
      | _ :: nameRemain => next filterRemain nameRemain true lastToken iters
    else if lastToken = openBrace then
      match strLocateChar filterRemain closeBrace with
      | some _ =>
        let (braceList, filterRemain) := strSplitChar filterRemain closeBrace
        let (first, temp) := strSplitChar braceList comma
        braces (tryAlternative env fail next filterRemain nameRemain) (braceList.length + 1)
          first temp iters
      | none =>
        match nameRemain with
        | [] => fail iters
        | c :: nameRemain =>
          if c ≠ openBrace then fail iters
          else next filterRemain nameRemain true lastToken iters
    else next filterRemain nameRemain false lastToken iters

end

theorem filterLoop_succ (env : PathEnv) (fuel : Nat) (filterRemain nameRemain : Bytes)
    (mustMatch : Bool) (lastToken : UInt8) (iters : Nat) :
    filterLoop env (fuel + 1) filterRemain nameRemain mustMatch lastToken iters =
      if strIsempty filterRemain ∨ iters ≥ vsftpMatchitersMax then
        if nameRemain.length > 0 ∧ lastToken ≠ star then (false, iters)
        else (iters ≠ vsftpMatchitersMax, iters)
      else
        filterTurn env (fun iters => (false, iters)) (filterLoop env fuel) braceLoop filterRemain
          nameRemain mustMatch (iters + 1) := rfl

theorem length_strSplitChar (s : Bytes) (c : UInt8) :
    (strSplitChar s c).1.length + (strSplitChar s c).2.length ≤ s.length := by
  unfold strSplitChar
  cases strLocateText s (ministr c) with
  | none => simp
  | some index =>
      simp only [strLeft, strMidToEnd, List.length_take, List.length_drop]
      omega

/-- Two loops whose turns are followed by related things are related. -/
theorem filterTurn_rel {α β : Type} {R : α → β → Prop} {env : PathEnv} {fail : Nat → α}
    {fail' : Nat → β} {next : Bytes → Bytes → Bool → UInt8 → Nat → α}
    {next' : Bytes → Bytes → Bool → UInt8 → Nat → β}
    {braces : (Bytes → Nat → α) → Nat → Bytes → Bytes → Nat → α}
    {braces' : (Bytes → Nat → β) → Nat → Bytes → Bytes → Nat → β} {iters : Nat}
    (hfail : R (fail iters) (fail' iters))
    (hnext : ∀ filter name must last, R (next filter name must last iters)
      (next' filter name must last iters))
    (hbraces : ∀ filter name first temp n, first.length + temp.length < n →
      R (braces (tryAlternative env fail next filter name) n first temp iters)
        (braces' (tryAlternative env fail' next' filter name) n first temp iters))
    (filterRemain nameRemain : Bytes) (mustMatch : Bool) :
    R (filterTurn env fail next braces filterRemain nameRemain mustMatch iters)
      (filterTurn env fail' next' braces' filterRemain nameRemain mustMatch iters) := by
  unfold filterTurn
  dsimp only
  cases matchNeeded mustMatch (nextToken filterRemain).1 nameRemain with
  | none => exact hfail
  | some nameRemain =>
      dsimp only
      split_ifs with hquestion hbrace
      · cases nameRemain with
        | nil => exact hfail
        | cons c nameRemain => exact hnext _ _ _ _
      · cases strLocateChar (nextToken filterRemain).2.1 closeBrace with
        | some _ => exact hbraces _ _ _ _ _ (Nat.lt_succ_of_le (length_strSplitChar _ _))
        | none =>
            cases nameRemain with
            | nil => exact hfail
            | cons c nameRemain =>
                dsimp only
                split_ifs
                · exact hfail
                · exact hnext _ _ _ _
      · exact hnext _ _ _ _

/-! ## Counting -/

/-- The return value, the counter and how often the body of the main loop was run. -/
structure FilterRun where
  ret : Bool
  iters : Nat
  turns : Nat
  deriving DecidableEq, Repr

def FilterRun.andTurns (run : FilterRun) (turns : Nat) : FilterRun :=
  { run with turns := run.turns + turns }

/-- `none` when the turns are used up. -/
def braceTurns (try' : Bytes → Nat → Option FilterRun) :
    Nat → Bytes → Bytes → Nat → Option FilterRun
  | 0, _, _, _ => none
  | n + 1, braceList, temp, iters =>
    if strIsempty braceList then some ⟨false, iters, 0⟩
    else
      match try' braceList iters with
      | none => none
      | some run =>
        if run.ret then some run
        else
          let (braceList, temp) := strSplitChar temp comma
          (braceTurns try' n braceList temp run.iters).map fun rest => rest.andTurns run.turns

/-- `filterLoop` with its turns counted; `none` when the fuel is used up. -/
def filterTurns (env : PathEnv) :
    Nat → Bytes → Bytes → Bool → UInt8 → Nat → Option FilterRun
  | 0, _, _, _, _, _ => none
  | fuel + 1, filterRemain, nameRemain, mustMatch, lastToken, iters =>
    if strIsempty filterRemain ∨ iters ≥ vsftpMatchitersMax then
      if nameRemain.length > 0 ∧ lastToken ≠ star then some ⟨false, iters, 0⟩
      else some ⟨iters ≠ vsftpMatchitersMax, iters, 0⟩
    else
      (filterTurn env (fun iters => some ⟨false, iters, 0⟩) (filterTurns env fuel) braceTurns
        filterRemain nameRemain mustMatch (iters + 1)).map fun run => run.andTurns 1

/-- What a run that begins at `iters` has used up. -/
structure Spent (iters : Nat) (run : FilterRun) : Prop where
  counted : run.iters = iters + run.turns
  bounded : run.iters ≤ vsftpMatchitersMax
  passes : run.ret = true → run.iters < vsftpMatchitersMax

/-- A counted run and the uncounted one that it stands for. -/
def Tallies (iters : Nat) (counted : Option FilterRun) (plain : Bool × Nat) : Prop :=
  ∃ run, counted = some run ∧ Spent iters run ∧ plain = (run.ret, run.iters)

theorem tallies_fail {iters : Nat} (h : iters ≤ vsftpMatchitersMax) :
    Tallies iters (some ⟨false, iters, 0⟩) (false, iters) :=
  ⟨_, rfl, ⟨rfl, h, fun hret => absurd hret Bool.false_ne_true⟩, rfl⟩

theorem Tallies.andTurns {iters turns : Nat} {counted : Option FilterRun} {plain : Bool × Nat}
    (h : Tallies (iters + turns) counted plain) :
    Tallies iters (counted.map fun run => run.andTurns turns) plain := by
  obtain ⟨run, rfl, hspent, hplain⟩ := h
  refine ⟨run.andTurns turns, rfl, ⟨?_, hspent.bounded, hspent.passes⟩, hplain⟩
  show run.iters = iters + (run.turns + turns)
  rw [hspent.counted]
  omega

/-- The alternatives one after the other, each beginning where the last one ended. -/
theorem tallies_braces {try' : Bytes → Nat → Option FilterRun} {loop : Bytes → Nat → Bool × Nat}
    {low : Nat} (htry : ∀ a i, low ≤ i → i ≤ vsftpMatchitersMax → Tallies i (try' a i) (loop a i))
    (n : Nat) (first temp : Bytes) (iters : Nat) (hn : first.length + temp.length < n)
    (hlow : low ≤ iters) (hiters : iters ≤ vsftpMatchitersMax) :
    Tallies iters (braceTurns try' n first temp iters) (braceLoop loop n first temp iters) := by
  induction n generalizing first temp iters with
  | zero => exact absurd hn (Nat.not_lt_zero _)
  | succ n ih =>
      rw [braceTurns, braceLoop]
      by_cases hfirst : first = []
      · rw [hfirst]
        exact tallies_fail hiters
      have hpos : 0 < first.length := List.length_pos_of_ne_nil hfirst
      have hempty : ¬ strIsempty first = true := by
        rw [strIsempty, List.isEmpty_iff]
        exact hfirst
      obtain ⟨run, htried, hspent, hplain⟩ := htry first iters hlow hiters
      rw [if_neg hempty, if_neg hempty, htried, hplain]
      dsimp only
      rcases Bool.eq_false_or_eq_true run.ret with hret | hret
      · rw [hret, if_pos rfl]
        exact ⟨run, rfl, hspent, by rw [hret]⟩
      · rw [hret, if_neg Bool.false_ne_true]
        have hlater : iters ≤ run.iters := by
          rw [hspent.counted]
          exact Nat.le_add_right _ _
        have hshorter := length_strSplitChar temp comma
        have hrest := ih (strSplitChar temp comma).1 (strSplitChar temp comma).2 run.iters
          (by omega) (Nat.le_trans hlow hlater) hspent.bounded
        rw [hspent.counted] at hrest ⊢
        exact hrest.andTurns

theorem tallies_tryAlternative {env : PathEnv} {fuel low : Nat}
    (hnext : ∀ filter name must last i, low ≤ i → i ≤ vsftpMatchitersMax →
      Tallies i (filterTurns env fuel filter name must last i)
        (filterLoop env fuel filter name must last i))
    (filter name alternative : Bytes) (i : Nat) (hlow : low ≤ i) (hi : i ≤ vsftpMatchitersMax) :
    Tallies i
      (tryAlternative env (fun iters => some ⟨false, iters, 0⟩) (filterTurns env fuel) filter name
        alternative i)
      (tryAlternative env (fun iters => (false, iters)) (filterLoop env fuel) filter name
        alternative i) := by
  unfold tryAlternative
  dsimp only
  cases vsfSysutilRealpath env name true with
  | none => exact tallies_fail hi
  | some normalized => exact hnext _ _ _ _ i hlow hi

/-- The fuel covers what is left of the budget, and every turn takes one of each. -/
theorem filterTurns_tallies (env : PathEnv) (fuel : Nat) (filter name : Bytes) (must : Bool)
    (last : UInt8) (iters : Nat) (hfuel : vsftpMatchitersMax < fuel + iters)
    (hiters : iters ≤ vsftpMatchitersMax) :
    Tallies iters (filterTurns env fuel filter name must last iters)
      (filterLoop env fuel filter name must last iters) := by
  induction fuel generalizing filter name must last iters with
  | zero => omega
  | succ fuel ih =>
      rw [filterTurns, filterLoop_succ]
      by_cases hend : strIsempty filter = true ∨ iters ≥ vsftpMatchitersMax
      · rw [if_pos hend, if_pos hend]
        by_cases hleft : name.length > 0 ∧ last ≠ star
        · rw [if_pos hleft, if_pos hleft]
          exact tallies_fail hiters
        · rw [if_neg hleft, if_neg hleft]
          refine ⟨_, rfl, ⟨rfl, hiters, fun hret => ?_⟩, rfl⟩
          exact Nat.lt_of_le_of_ne hiters (of_decide_eq_true hret)
      · rw [if_neg hend, if_neg hend]
        have hnext : iters + 1 ≤ vsftpMatchitersMax := by
          by_contra hfull
          exact hend (Or.inr (by omega))
        have hrec : ∀ f n m l i, iters + 1 ≤ i → i ≤ vsftpMatchitersMax →
            Tallies i (filterTurns env fuel f n m l i) (filterLoop env fuel f n m l i) :=
          fun f n m l i hlow hi => ih f n m l i (by omega) hi
        refine Tallies.andTurns
          (filterTurn_rel (R := Tallies (iters + 1)) ?_ ?_ ?_ filter name must)
        · exact tallies_fail hnext
        · exact fun f n m l => hrec f n m l (iters + 1) (Nat.le_refl _) hnext
        · intro f n first temp turns hturns
          exact tallies_braces (tallies_tryAlternative hrec f n) turns first temp (iters + 1) hturns
            (Nat.le_refl _) hnext

/-! ## More fuel -/

/-- What is there stays there. -/
def Extends (a b : Option FilterRun) : Prop := ∀ run, a = some run → b = some run

theorem Extends.map {a b : Option FilterRun} (h : Extends a b) (f : FilterRun → FilterRun) :
    Extends (a.map f) (b.map f) := by
  intro run hrun
  obtain ⟨run', ha, rfl⟩ := Option.map_eq_some_iff.mp hrun
  rw [h run' ha]
  rfl

theorem extends_braces {try' try'' : Bytes → Nat → Option FilterRun}
    (h : ∀ a i, Extends (try' a i) (try'' a i)) (n : Nat) (first temp : Bytes) (iters : Nat) :
    Extends (braceTurns try' n first temp iters) (braceTurns try'' n first temp iters) := by
  induction n generalizing first temp iters with
  | zero => exact fun run hrun => hrun
  | succ n ih =>
      rw [braceTurns, braceTurns]
      by_cases hempty : strIsempty first = true
      · rw [if_pos hempty, if_pos hempty]
        exact fun run hrun => hrun
      rw [if_neg hempty, if_neg hempty]
      cases htried : try' first iters with
      | none => exact fun run hrun => by cases hrun
      | some run =>
          rw [h first iters run htried]
          dsimp only
          by_cases hret : run.ret = true
          · rw [if_pos hret, if_pos hret]
            exact fun run hrun => hrun
          · rw [if_neg hret, if_neg hret]
            exact (ih _ _ _).map _

theorem filterTurns_extends (env : PathEnv) (fuel : Nat) (filter name : Bytes) (must : Bool)
    (last : UInt8) (iters : Nat) :
    Extends (filterTurns env fuel filter name must last iters)
      (filterTurns env (fuel + 1) filter name must last iters) := by
  induction fuel generalizing filter name must last iters with
  | zero => exact fun run hrun => by cases hrun
  | succ fuel ih =>
      rw [filterTurns, filterTurns]
      by_cases hend : strIsempty filter = true ∨ iters ≥ vsftpMatchitersMax
      · rw [if_pos hend, if_pos hend]
        exact fun run hrun => hrun
      rw [if_neg hend, if_neg hend]
      refine Extends.map (filterTurn_rel (R := Extends) ?_ ?_ ?_ filter name must) _
      · exact fun run hrun => hrun
      · exact fun f n m l => ih f n m l (iters + 1)
      · intro f n first temp turns _
        refine extends_braces (fun a i => ?_) turns first temp (iters + 1)
        unfold tryAlternative
        dsimp only
        cases vsfSysutilRealpath env n true with
        | none => exact fun run hrun => hrun
        | some normalized => exact ih _ _ _ _ i

theorem filterTurns_more (env : PathEnv) {fuel fuel' : Nat} (h : fuel ≤ fuel') (filter name : Bytes)
    (must : Bool) (last : UInt8) (iters : Nat) :
    Extends (filterTurns env fuel filter name must last iters)
      (filterTurns env fuel' filter name must last iters) := by
  induction h with
  | refl => exact fun run hrun => hrun
  | step _ ih => exact fun run hrun => filterTurns_extends _ _ _ _ _ _ _ run (ih run hrun)

/-! ## The filter -/

/-- `vsf_filename_passes_filter` with its turns counted. -/
def filterRun (env : PathEnv) (fuel : Nat) (filename filter : Bytes) (iters : Nat) :
    Option FilterRun :=
  match vsfSysutilRealpath env filename true with
  | none => some ⟨false, iters, 0⟩
  | some normalized =>
    filterTurns env fuel filter (filterSubject env filter normalized) true 0 iters

/-- Any fuel beyond what is left of the budget gives the same run, and it is what the
filter does. -/
theorem filterRun_budget (env : PathEnv) (filename filter : Bytes) (iters : Nat)
    (hiters : iters ≤ vsftpMatchitersMax) :
    ∃ run, (∀ fuel, vsftpMatchitersMax - iters < fuel →
        filterRun env fuel filename filter iters = some run) ∧
      vsfFilenamePassesFilter env filename filter iters = (run.ret, run.iters) ∧
      run.iters = iters + run.turns ∧ run.iters ≤ vsftpMatchitersMax ∧
      (run.ret = true → run.iters < vsftpMatchitersMax) := by
  unfold filterRun vsfFilenamePassesFilter
  cases vsfSysutilRealpath env filename true with
  | none =>
      exact ⟨⟨false, iters, 0⟩, fun _ _ => rfl, rfl, rfl, hiters,
        fun hret => absurd hret Bool.false_ne_true⟩
  | some normalized =>
      dsimp only
      obtain ⟨run, hrun, hspent, hplain⟩ := filterTurns_tallies env (vsftpMatchitersMax + 1) filter
        (filterSubject env filter normalized) true 0 iters (by omega) hiters
      refine ⟨run, fun fuel hfuel => ?_, hplain, hspent.counted, hspent.bounded, hspent.passes⟩
      obtain ⟨run', hrun', -, -⟩ := filterTurns_tallies env (vsftpMatchitersMax - iters + 1) filter
        (filterSubject env filter normalized) true 0 iters (by omega) hiters
      have hless : vsftpMatchitersMax - iters + 1 ≤ vsftpMatchitersMax + 1 := by omega
      have hsame := filterTurns_more env hless filter _ true 0 iters run' hrun'
      rw [hrun] at hsame
      cases hsame
      exact filterTurns_more env hfuel filter _ true 0 iters run hrun'

/-- The filter `{a,b}` and the name `/b`, with two turns left. -/
theorem filterRun_budget_here :
    ∃ run, (∀ fuel, vsftpMatchitersMax - 998 < fuel →
        filterRun ⟨fun path => .found path, [slash]⟩ fuel (bytes "/b") (bytes "{/a,/b}") 998 =
          some run) ∧
      vsfFilenamePassesFilter ⟨fun path => .found path, [slash]⟩ (bytes "/b")
        (bytes "{/a,/b}") 998 = (run.ret, run.iters) ∧
      run.iters = 998 + run.turns ∧ run.iters ≤ vsftpMatchitersMax ∧
      (run.ret = true → run.iters < vsftpMatchitersMax) :=
  filterRun_budget ⟨fun path => .found path, [slash]⟩ (bytes "/b") (bytes "{/a,/b}") 998 (by decide)

end Vsftpd
