import Vsftpd.Ls.DenyFile

/-!
# Patterns that deny all that they match

A pattern with one star behind its other wildcards, and a text behind the star that does
not overlap itself or another star at the very end.  A group of such patterns that stands
alone is of the kind too, as the manual page's example is.
-/

namespace Vsftpd

open Vsftpd.Lib.TextSearch Vsftpd.Lib.Glob

/-- What may follow the part without stars. -/
def SimpleTail (tail : List PatternElem) : Prop :=
  tail = [] ∨
    (∃ text : Bytes, Unbordered text ∧ tail = .star :: text.map .lit) ∨
    ∃ text : Bytes, tail = .star :: (text.map .lit ++ [.star])

def Simple (es : List PatternElem) : Prop :=
  es ≠ [] ∧ ∃ head tail, es = head ++ tail ∧ .star ∉ head ∧ SimpleTail tail

/-- One simple list of elements, or one group of them. -/
def SimplePattern (p : Pattern) : Prop :=
  (∃ es, p = es.map .elem ∧ Simple es) ∨
    ∃ first others, p = [.group first others] ∧ ∀ a ∈ first :: others, Simple a

variable {env : PathEnv} {p : Pattern} {es : List PatternElem} {name text post : Bytes} {c : UInt8}

/-! ## A pass that succeeds -/

theorem leadingText_lits (text : Bytes) (p : Pattern) :
    leadingText (text.map (fun c => Item.elem (.lit c)) ++ p) =
      (text ++ (leadingText p).1, (leadingText p).2) := by
  induction text with
  | nil => rfl
  | cons c text ih => rw [List.map_cons, List.cons_append, leadingText, ih]; rfl

theorem placed_true : Placed true text name post ↔ name = text ++ post := by
  unfold Placed
  by_cases htext : text = []
  · rw [if_pos htext, htext, List.nil_append]
    exact eq_comm
  · rw [if_neg htext, if_pos rfl]

theorem exists_placed_false (h : Occurs text name) : ∃ post, Placed false text name post := by
  by_cases htext : text = []
  · exact ⟨name, by rw [Placed, if_pos htext]⟩
  · obtain ⟨post, hpost⟩ := h.exists_afterLast htext
    exact ⟨post, by rwa [Placed, if_neg htext, if_neg Bool.false_ne_true]⟩

theorem Greedy.lit (h : Greedy env true p name) :
    Greedy env true (.elem (.lit c) :: p) (c :: name) := by
  have hlead : ∀ text rest, leadingText p = (text, rest) →
      leadingText (.elem (.lit c) :: p) = (c :: text, rest) := by
    intro text rest hp
    rw [leadingText, hp]
  have hplaced : ∀ text post, Placed true text name post →
      Placed true (c :: text) (c :: name) post := by
    intro text post h
    rw [placed_true] at h ⊢
    rw [h, List.cons_append]
  cases h with
  | done hp h => exact .done (hlead _ _ hp) (hplaced _ _ h)
  | star hp h hrest => exact .star (hlead _ _ hp) (hplaced _ _ h) hrest
  | any hp h hrest => exact .any (hlead _ _ hp) (hplaced _ _ h) hrest
  | group hp h ha hresolved hrest => exact .group (hlead _ _ hp) (hplaced _ _ h) ha hresolved hrest

theorem Greedy.any_cons (h : Greedy env true p name) :
    Greedy env true (.elem .any :: p) (c :: name) :=
  .any rfl (placed_true.mpr rfl) h

theorem Greedy.star_cons (h : Greedy env false p name) : Greedy env true (.elem .star :: p) name :=
  .star rfl (placed_true.mpr rfl) h

/-- Behind a star a text that does not overlap itself is found at the end. -/
theorem greedy_suffix (htext : Unbordered text) (pre : Bytes) :
    Greedy env false (text.map fun c => Item.elem (.lit c)) (pre ++ text) := by
  by_cases hne : text = []
  · subst hne
    exact .trailing
  have hlead : leadingText (text.map fun c => Item.elem (.lit c)) = (text, []) := by
    have happend := leadingText_lits text []
    rw [List.append_nil] at happend
    rw [happend]
    simp [leadingText]
  refine .done hlead ?_
  unfold Placed
  rw [if_neg hne, if_neg Bool.false_ne_true]
  exact htext.afterLast hne pre

theorem greedy_within (h : Occurs text name) :
    Greedy env false (text.map (fun c => Item.elem (.lit c)) ++ [.elem .star]) name := by
  have hlead : leadingText (text.map (fun c => Item.elem (.lit c)) ++ [.elem .star]) =
      (text, [.elem .star]) := by
    rw [leadingText_lits]
    simp [leadingText]
  obtain ⟨post, hpost⟩ := exists_placed_false h
  exact .star hlead hpost .trailing

theorem matches_text (h : Matches (text.map .lit ++ es) name) :
    ∃ post, name = text ++ post ∧ Matches es post := by
  induction text generalizing name with
  | nil => exact ⟨name, rfl, h⟩
  | cons c text ih =>
      cases h with
      | lit _ h =>
          obtain ⟨post, rfl, hpost⟩ := ih h
          exact ⟨post, rfl, hpost⟩

theorem greedy_tail (htail : SimpleTail es) (h : Matches es name) :
    Greedy env true (es.map .elem) name := by
  rcases htail with rfl | ⟨text, htext, rfl⟩ | ⟨text, rfl⟩
  · cases h
    exact greedy_nil.mpr (.inl rfl)
  · obtain ⟨pre, post, rfl, hpost⟩ := matches_star.mp h
    rw [← List.append_nil (text.map _)] at hpost
    obtain ⟨rest, rfl, hrest⟩ := matches_text hpost
    cases hrest
    rw [List.append_nil, List.map_cons, List.map_map]
    exact (greedy_suffix htext pre).star_cons
  · obtain ⟨pre, post, rfl, hpost⟩ := matches_star.mp h
    obtain ⟨rest, rfl, -⟩ := matches_text hpost
    rw [List.map_cons, List.map_append, List.map_map]
    exact (greedy_within ⟨pre, rest, rfl⟩).star_cons

theorem Simple.greedy (hsimple : Simple es) (h : Matches es name) :
    Greedy env true (es.map .elem) name := by
  obtain ⟨-, head, tail, rfl, hhead, htail⟩ := hsimple
  induction head generalizing name with
  | nil => exact greedy_tail htail h
  | cons e head ih =>
      rw [List.mem_cons, not_or] at hhead
      cases e with
      | lit c =>
          cases h with
          | lit _ h => exact (ih h hhead.2).lit
      | any =>
          cases h with
          | any _ h => exact (ih h hhead.2).any_cons
      | star => exact absurd rfl hhead.1

/-! ## The check -/

theorem expansions_elems (es : List PatternElem) : expansions (es.map .elem) = [es] := by
  induction es with
  | nil => rfl
  | cons e es ih => rw [List.map_cons, expansions, ih]; rfl

theorem patternTarget_elems (hne : es ≠ []) (name : Bytes) :
    patternTarget (es.map .elem) name = expansionTarget es name := by
  cases es with
  | nil => exact absurd rfl hne
  | cons e es => cases e <;> rfl

theorem simplePattern_found (hp : Documented p) (hsimple : SimplePattern p)
    (hname : Canonical env name) (h : Denies p name) : Found env p name := by
  obtain ⟨e, he, hmatches⟩ := h
  rcases hsimple with ⟨es, rfl, hes⟩ | ⟨first, others, rfl, hgroup⟩
  · rw [expansions_elems, List.mem_singleton] at he
    subst he
    right
    rw [patternTarget_elems hes.1]
    exact hes.greedy hmatches
  · have hmem : e ∈ first :: others := by simpa [expansions] using he
    have hdoc : Documented (e.map .elem) := by
      intro i hi
      obtain ⟨d, hd, rfl⟩ := List.mem_map.mp hi
      exact (hp _ List.mem_cons_self e hmem d hd).1
    have hkept : (first :: others).takeWhile (fun a => !a.isEmpty) = first :: others := by
      have hall : ∀ a ∈ first :: others, (!a.isEmpty) = true := by
        intro a ha
        simpa using (hgroup a ha).1
      simpa using @List.takeWhile_append_of_pos _ _ (first :: others) [] hall
    refine .inr (.group rfl (placed_true.mpr rfl) (hkept.symm ▸ hmem) hname.resolves ?_)
    rw [List.append_nil, filterSubject_canonical hdoc hname,
      patternTarget_elems (hgroup e hmem).1]
    exact (hgroup e hmem).greedy hmatches

/-- Every existing name that a simple pattern matches is denied. -/
theorem denyComplete_of_simple (hp : Documented p) (hsimple : SimplePattern p)
    (hname : Canonical env name)
    (hbudget : (vsfFilenamePassesFilter env name (render p) 0).2 < vsftpMatchitersMax) :
    DenyComplete env p name := fun h =>
  (vsfAccessCheckFile_eq_false hp hname hbudget).mpr (simplePattern_found hp hsimple hname h)

/-- The manual page's example in short, a simple pattern. -/
example : SimplePattern hideMovies := by
  refine .inr ⟨_, _, rfl, List.forall_mem_cons.mpr ⟨?_, List.forall_mem_singleton.mpr ?_⟩⟩
  · exact ⟨by simp, [], _, rfl, by simp,
      .inr (.inl ⟨bytes ".mov", unbordered_of_head (by decide), rfl⟩)⟩
  · exact ⟨by simp [bytes], _, [], (List.append_nil _).symm, by simp, .inl rfl⟩

end Vsftpd
