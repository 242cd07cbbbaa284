import Vsftpd.Ls.DenyFile
import Vsftpd.Ls.FilterBudget

/-!
# What the filter accepts

A filter without braces that lets a name through matches it as a glob pattern, however
the name was divided among the pieces of the filter.
-/

namespace Vsftpd

open Vsftpd.Lib.TextSearch Vsftpd.Lib.Glob

/-- A filter without braces as a pattern. -/
def globElem (c : UInt8) : PatternElem :=
  if c = star then .star else if c = question then .any else .lit c

def globPattern (filter : Bytes) : List PatternElem := filter.map globElem

variable {filter text name post : Bytes} {must : Bool} {es : List PatternElem}

theorem elemByte_globElem (c : UInt8) : elemByte (globElem c) = c := by
  unfold globElem
  split_ifs with hstar hquestion
  · exact hstar.symm
  · exact hquestion.symm
  · rfl

theorem render_globPattern (filter : Bytes) : render ((globPattern filter).map .elem) = filter := by
  rw [render_elems, renderElems, globPattern, List.map_map]
  conv_rhs => rw [← List.map_id filter]
  exact List.map_congr_left fun c _ => elemByte_globElem c

theorem documented_globPattern (hnul : (0 : UInt8) ∉ filter) (hbrace : openBrace ∉ filter) :
    Documented ((globPattern filter).map .elem) := by
  intro i hi
  obtain ⟨e, he, rfl⟩ := List.mem_map.mp hi
  obtain ⟨d, hd, rfl⟩ := List.mem_map.mp he
  intro c hc
  unfold globElem at hc
  split_ifs at hc with hstar hquestion
  cases hc
  refine ⟨?_, hstar, hquestion, ?_⟩
  · rintro rfl
    exact hnul hd
  · rintro rfl
    exact hbrace hd

/-! ## Pieces -/

theorem matches_lits (text : Bytes) (h : Matches es post) :
    Matches (text.map .lit ++ es) (text ++ post) := by
  induction text with
  | nil => exact h
  | cons c text ih => exact .lit c ih

/-- What a pattern is when its beginning may be anywhere. -/
def anchored (must : Bool) (es : List PatternElem) : List PatternElem :=
  if must then es else .star :: es

theorem matches_anchored (h : Matches es name) : Matches (anchored must es) name := by
  cases must with
  | true => exact h
  | false => exact .starNil h

theorem matches_placed (hplaced : Placed must text name post) (h : Matches es post) :
    Matches (anchored must (text.map .lit ++ es)) name := by
  have hpiece := matches_lits text h
  unfold Placed at hplaced
  split_ifs at hplaced with htext hmust
  · rw [htext, List.nil_append, hplaced] at hpiece
    rw [htext]
    exact matches_anchored hpiece
  · rw [hplaced]
    exact matches_anchored hpiece
  · obtain ⟨pre, rfl⟩ := hplaced.split
    rw [anchored, if_neg hmust]
    exact matches_star.mpr ⟨pre, text ++ post, rfl, hpiece⟩

/-! ## Patterns without groups -/

/-- The elements of a pattern, without its groups. -/
def plainElems : Pattern → List PatternElem
  | [] => []
  | .elem e :: p => e :: plainElems p
  | .group _ _ :: p => plainElems p

theorem plainElems_elems (es : List PatternElem) : plainElems (es.map .elem) = es := by
  induction es with
  | nil => rfl
  | cons e es ih => exact congrArg (e :: ·) ih

theorem plainElems_leadingText (p : Pattern) :
    plainElems p = (leadingText p).1.map .lit ++ plainElems (leadingText p).2 := by
  have hlits : ∀ (text : Bytes) (q : Pattern),
      plainElems (text.map (fun c => Item.elem (.lit c)) ++ q) = text.map .lit ++ plainElems q := by
    intro text q
    induction text with
    | nil => rfl
    | cons c text ih => exact congrArg (Elem.lit c :: ·) ih
  conv_lhs => rw [← leadingText_append p]
  exact hlits _ _

def NoGroups (p : Pattern) : Prop := ∀ first others, Item.group first others ∉ p

theorem NoGroups.leadingText_rest {p : Pattern} (h : NoGroups p) : NoGroups (leadingText p).2 := by
  intro first others hmem
  refine h first others ?_
  rw [← leadingText_append p]
  exact List.mem_append_right _ hmem

theorem NoGroups.tail {i : Item UInt8} {p : Pattern} (h : NoGroups (i :: p)) : NoGroups p :=
  fun first others hmem => h first others (List.mem_cons_of_mem i hmem)

theorem noGroups_elems (es : List PatternElem) : NoGroups (es.map .elem) := by
  intro first others hmem
  obtain ⟨e, -, he⟩ := List.mem_map.mp hmem
  cases he

/-- Where the pass succeeds, the pieces and the stars between them cover the name. -/
theorem Greedy.matches {env : PathEnv} {p : Pattern} (h : Greedy env must p name)
    (hp : NoGroups p) : Matches (anchored must (plainElems p)) name := by
  induction h with
  | done hlead hplaced =>
      rw [plainElems_leadingText, hlead]
      exact matches_placed hplaced .nil
  | trailing => exact matches_star.mpr ⟨_, [], (List.append_nil _).symm, .nil⟩
  | star hlead hplaced _ ih =>
      have hrest := hp.leadingText_rest
      rw [hlead] at hrest
      rw [plainElems_leadingText, hlead]
      exact matches_placed hplaced (ih hrest.tail)
  | any hlead hplaced _ ih =>
      have hrest := hp.leadingText_rest
      rw [hlead] at hrest
      rw [plainElems_leadingText, hlead]
      exact matches_placed hplaced (.any _ (ih hrest.tail))
  | group hlead _ _ _ _ _ =>
      have hrest := hp.leadingText_rest
      rw [hlead] at hrest
      exact absurd List.mem_cons_self (hrest _ _)

/-! ## The filter -/

/-- The last component, or the whole path for a filter that begins with a slash. -/
def selectedName (filter resolved : Bytes) : Bytes :=
  if filter.head? = some slash then resolved else strBasename resolved

theorem filterSubject_absolute (env : PathEnv) {resolved : Bytes} (hfilter : filter ≠ [])
    (hbrace : openBrace ∉ filter) (habsolute : resolved.head? = some slash) :
    filterSubject env filter resolved = selectedName filter resolved := by
  match filter, resolved with
  | f :: filter, n :: resolved =>
      have hn : n = slash := Option.some.inj habsolute
      have hf : f ≠ openBrace := fun heq => hbrace (by simp [heq])
      unfold filterSubject selectedName
      by_cases hslash : f = slash
      · simp [hslash, hn]
      · simp [hslash, hf]

/-- The loop accepts what the pattern matches, when the budget lasts. -/
theorem filterLoop_matches (env : PathEnv) (iters : Nat) (hnul : (0 : UInt8) ∉ filter)
    (hbrace : openBrace ∉ filter) (hiters : iters ≤ vsftpMatchitersMax)
    (hpass : (filterLoop env (vsftpMatchitersMax + 1) filter name true 0 iters).1 = true) :
    Matches (globPattern filter) name := by
  obtain ⟨run, -, hspent, hplain⟩ := filterTurns_tallies env (vsftpMatchitersMax + 1) filter name
    true 0 iters (by omega) hiters
  have hbudget : (filterLoop env (vsftpMatchitersMax + 1) filter name true 0 iters).2
      < vsftpMatchitersMax := by
    rw [hplain] at hpass ⊢
    exact hspent.passes hpass
  have hlast : true = false ↔ (0 : UInt8) = star := by decide
  rw [← render_globPattern filter] at hbudget hpass
  have hgreedy := (filterLoop_iff env (vsftpMatchitersMax + 1)
    (documented_globPattern hnul hbrace) name hlast (by omega) hbudget).mp hpass
  have hmatches := hgreedy.matches (noGroups_elems _)
  rwa [plainElems_elems] at hmatches

theorem passes_matches (env : PathEnv) (filename filter : Bytes) (iters : Nat)
    (hnul : (0 : UInt8) ∉ filter) (hbrace : openBrace ∉ filter)
    (hiters : iters ≤ vsftpMatchitersMax)
    (hpass : (vsfFilenamePassesFilter env filename filter iters).1 = true) :
    ∃ resolved, env.realpath filename = .found resolved ∧
      Matches (globPattern filter) (filterSubject env filter resolved) ∧
      (resolved.head? = some slash →
        filterSubject env filter resolved = selectedName filter resolved) := by
  unfold vsfFilenamePassesFilter at hpass
  cases hresolved : vsfSysutilRealpath env filename true with
  | none =>
      rw [hresolved] at hpass
      exact absurd hpass Bool.false_ne_true
  | some resolved =>
      rw [hresolved] at hpass
      have hmatches := filterLoop_matches env iters hnul hbrace hiters hpass
      refine ⟨resolved, vsfSysutilRealpath_eq_some.mp hresolved, hmatches, fun habsolute => ?_⟩
      by_cases hfilter : filter = []
      · rw [hfilter] at hmatches
        have hname : Matches [] resolved := hmatches
        cases hname
        exact absurd habsolute (by simp)
      · exact filterSubject_absolute env hfilter hbrace habsolute

theorem passes_matches_oneFile :
    ∃ resolved, oneFile.realpath (bytes "/b.mov") = .found resolved ∧
      Matches (globPattern (bytes "*.m?v")) (filterSubject oneFile (bytes "*.m?v") resolved) ∧
      (resolved.head? = some slash →
        filterSubject oneFile (bytes "*.m?v") resolved = selectedName (bytes "*.m?v") resolved) :=
  passes_matches oneFile (bytes "/b.mov") (bytes "*.m?v") 0 (by decide) (by decide) (by decide)
    (by decide +kernel)

end Vsftpd
