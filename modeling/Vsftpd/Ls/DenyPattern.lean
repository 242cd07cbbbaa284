import Vsftpd.Access
import Vsftpd.Lib.Glob

/-!
# What a deny pattern means and what the filter finds

A pattern in the syntax of `vsftpd.conf.5` is a list of items; `render` is its
text.  `Denies` is what the pattern asks for, `Greedy` how far the filter gets:
it never takes back a place it has chosen for a piece of text.
-/

namespace Vsftpd

open Vsftpd.Lib.TextSearch Vsftpd.Lib.Glob

abbrev PatternElem := Elem UInt8

abbrev Pattern := List (Item UInt8)

def elemByte : PatternElem → UInt8
  | .lit c => c
  | .any => question
  | .star => star

def renderElems (es : List PatternElem) : Bytes := es.map elemByte

/-- The texts of the alternatives with commas in between. -/
def joinAlternatives : List (List PatternElem) → Bytes
  | [] => []
  | [a] => renderElems a
  | a :: b :: as => renderElems a ++ comma :: joinAlternatives (b :: as)

def renderItem : Item UInt8 → Bytes
  | .elem e => [elemByte e]
  | .group first others => openBrace :: (joinAlternatives (first :: others) ++ [closeBrace])

def render (p : Pattern) : Bytes := p.flatMap renderItem

def PlainElem (e : PatternElem) : Prop :=
  ∀ c, e = .lit c → c ≠ 0 ∧ c ≠ star ∧ c ≠ question ∧ c ≠ openBrace

/-- Inside a group a comma and a closing brace have a meaning too. -/
def GroupElem (e : PatternElem) : Prop :=
  PlainElem e ∧ ∀ c, e = .lit c → c ≠ comma ∧ c ≠ closeBrace

def DocumentedItem : Item UInt8 → Prop
  | .elem e => PlainElem e
  | .group first others => ∀ a ∈ first :: others, ∀ e ∈ a, GroupElem e

/-- The documented syntax. -/
def Documented (p : Pattern) : Prop := ∀ i ∈ p, DocumentedItem i

/-! ## What is asked for -/

/-- What an expansion is compared with. -/
def expansionTarget (e : List PatternElem) (name : Bytes) : Bytes :=
  match e with
  | .lit c :: _ => if c = slash then name else strBasename name
  | _ => strBasename name

/-- A name that exists and that `realpath` leaves as it is. -/
structure Canonical (env : PathEnv) (name : Bytes) : Prop where
  resolves : env.realpath name = .found name
  absolute : name.head? = some slash

/-- Some expansion of the pattern matches the name. -/
def Denies (p : Pattern) (name : Bytes) : Prop :=
  ∃ e ∈ expansions p, Matches e (expansionTarget e name)

/-- Every name that the pattern is to deny is denied. -/
def DenyComplete (env : PathEnv) (p : Pattern) (name : Bytes) : Prop :=
  Denies p name → vsfAccessCheckFile env (some (render p)) name = false

/-! ## What is found -/

/-- Where a piece of text is placed: at the current position, or behind a star
as far right as scanning on from each occurrence's end finds it. -/
def Placed (mustMatchAtCurrentPos : Bool) (text name post : Bytes) : Prop :=
  if text = [] then post = name
  else if mustMatchAtCurrentPos then name = text ++ post
  else AfterLast text name post

/-- An alternative of a group is tried on the rest of the name as a path of its
own, and the alternatives from the first empty one on are not tried. -/
inductive Greedy (env : PathEnv) : Bool → Pattern → Bytes → Prop
  | done {must p text name} (hp : leadingText p = (text, [])) (h : Placed must text name []) :
      Greedy env must p name
  | trailing {name} : Greedy env false [] name
  | star {must p text rest name post} (hp : leadingText p = (text, .elem .star :: rest))
      (h : Placed must text name post) (hrest : Greedy env false rest post) :
      Greedy env must p name
  | any {must p text rest name c post} (hp : leadingText p = (text, .elem .any :: rest))
      (h : Placed must text name (c :: post)) (hrest : Greedy env true rest post) :
      Greedy env must p name
  | group {must p text first others rest name post a resolved}
      (hp : leadingText p = (text, .group first others :: rest))
      (h : Placed must text name post)
      (ha : a ∈ (first :: others).takeWhile fun a => !a.isEmpty)
      (hresolved : env.realpath post = .found resolved)
      (hrest : Greedy env true (a.map .elem ++ rest)
        (filterSubject env (render (a.map .elem ++ rest)) resolved)) :
      Greedy env must p name

/-- What the pass over the pattern begins with. -/
def patternTarget (p : Pattern) (name : Bytes) : Bytes :=
  match p with
  | .elem (.lit c) :: _ => if c = slash then name else strBasename name
  | .elem _ :: _ => strBasename name
  | _ => name

/-- The name contains the pattern's text, or one greedy pass succeeds. -/
def Found (env : PathEnv) (p : Pattern) (name : Bytes) : Prop :=
  (render p ≠ [] ∧ Occurs (render p) name) ∨ Greedy env true p (patternTarget p name)

/-! ## The pattern's text -/

theorem render_nil : render [] = [] := rfl

theorem render_cons (i : Item UInt8) (p : Pattern) :
    render (i :: p) = renderItem i ++ render p := rfl

theorem render_append (p q : Pattern) : render (p ++ q) = render p ++ render q := by
  rw [render, render, render, List.flatMap_append]

theorem render_elems (es : List PatternElem) : render (es.map .elem) = renderElems es := by
  induction es with
  | nil => rfl
  | cons e es ih =>
      rw [List.map_cons, render_cons, ih]
      rfl

theorem renderItem_ne_nil (i : Item UInt8) : renderItem i ≠ [] := by
  cases i <;> simp [renderItem]

theorem render_eq_nil {p : Pattern} : render p = [] ↔ p = [] := by
  constructor
  · intro h
    cases p with
    | nil => rfl
    | cons i p =>
        rw [render_cons, List.append_eq_nil_iff] at h
        exact absurd h.1 (renderItem_ne_nil i)
  · rintro rfl
    rfl

theorem render_leadingText (p : Pattern) :
    render p = (leadingText p).1 ++ render (leadingText p).2 := by
  have hlits : ∀ text : Bytes, render (text.map fun c => Item.elem (.lit c)) = text := by
    intro text
    induction text with
    | nil => rfl
    | cons c text ih =>
        rw [List.map_cons, render_cons, ih]
        rfl
  conv_lhs => rw [← leadingText_append p]
  rw [render_append, hlits]

theorem Documented.tail {i : Item UInt8} {p : Pattern} (h : Documented (i :: p)) :
    Documented p := fun j hj => h j (List.mem_cons_of_mem i hj)

theorem Documented.leadingText_rest {p : Pattern} (h : Documented p) :
    Documented (leadingText p).2 := by
  intro i hi
  refine h i ?_
  rw [← leadingText_append p]
  exact List.mem_append_right _ hi

theorem Documented.leadingText_mem {p : Pattern} (h : Documented p) {c : UInt8}
    (hc : c ∈ (leadingText p).1) : c ∉ [star, question, openBrace] := by
  have hmem : Item.elem (.lit c) ∈ p := by
    rw [← leadingText_append p]
    exact List.mem_append_left _ (List.mem_map.mpr ⟨c, hc, rfl⟩)
  obtain ⟨-, h1, h2, h3⟩ := h _ hmem c rfl
  simp [h1, h2, h3]

theorem mem_renderElems_ne {a : List PatternElem} (h : ∀ e ∈ a, GroupElem e) {c : UInt8}
    (hc : c ∈ renderElems a) : c ≠ comma ∧ c ≠ closeBrace := by
  obtain ⟨e, he, rfl⟩ := List.mem_map.mp hc
  cases e with
  | lit c => exact (h _ he).2 c rfl
  | any => exact ⟨by decide, by decide⟩
  | star => exact ⟨by decide, by decide⟩

theorem joinAlternatives_ne_closeBrace {as : List (List PatternElem)}
    (h : ∀ a ∈ as, ∀ e ∈ a, GroupElem e) : closeBrace ∉ joinAlternatives as := by
  induction as with
  | nil => simp [joinAlternatives]
  | cons a as ih =>
      have ha : closeBrace ∉ renderElems a := fun hc =>
        (mem_renderElems_ne (h a (by simp)) hc).2 rfl
      cases as with
      | nil => exact ha
      | cons b as =>
          have htail := ih fun c hc => h c (List.mem_cons_of_mem a hc)
          rw [joinAlternatives, List.mem_append, List.mem_cons]
          rintro (hc | hc | hc)
          · exact ha hc
          · exact absurd hc (by decide)
          · exact htail hc

theorem strSplitChar_joinAlternatives {a : List PatternElem} (as : List (List PatternElem))
    (h : ∀ e ∈ a, GroupElem e) :
    strSplitChar (joinAlternatives (a :: as)) comma = (renderElems a, joinAlternatives as) := by
  have ha : comma ∉ renderElems a := fun hc => (mem_renderElems_ne h hc).1 rfl
  cases as with
  | nil => exact strSplitChar_of_not_mem ha
  | cons b as => exact strSplitChar_append (by decide) ha

theorem length_le_joinAlternatives (a : List PatternElem) (as : List (List PatternElem)) :
    as.length ≤ (joinAlternatives (a :: as)).length := by
  induction as generalizing a with
  | nil => simp
  | cons b as ih =>
      have := ih b
      rw [joinAlternatives]
      simp only [List.length_append, List.length_cons]
      omega

end Vsftpd
