import Vsftpd.Lib.TextSearch
import Mathlib.Algebra.Group.Nat.Defs
import Mathlib.Algebra.Group.Int.Defs

/-!
# Strings

A `struct mystr` is its `len` bytes.  Functions that return through an output
string return it; a search result is the index, when something was found.
-/

namespace Vsftpd

open Vsftpd.Lib.TextSearch

abbrev Bytes := List UInt8

instance : LawfulBEq Bytes := inferInstance

/-- The bytes of a C string literal. -/
def bytes (s : String) : Bytes := s.toList.map fun c => UInt8.ofNat c.toNat

def strIsempty (s : Bytes) : Bool := s.isEmpty

/-- An empty text is never found. -/
def strLocateText (s text : Bytes) : Option Nat :=
  if text.isEmpty then none else locate text s

def strLocateTextReverse (s text : Bytes) : Option Nat :=
  if text.isEmpty then none else locateLast text s

def strLocateStr (s look : Bytes) : Option Nat := strLocateText s look

/-- A character as a C string; the null character makes an empty one. -/
def ministr (c : UInt8) : Bytes := if c = 0 then [] else [c]

def strLocateChar (s : Bytes) (c : UInt8) : Option Nat := strLocateText s (ministr c)

/-- The first of the characters `chars`, and which one it is. -/
def strLocateChars : Bytes → Bytes → Option (Nat × UInt8)
  | [], _ => none
  | c :: s, chars =>
    if c ∈ chars then some (0, c)
    else (strLocateChars s chars).map fun r => (r.1 + 1, r.2)

def strLeft (s : Bytes) (chars : Nat) : Bytes := s.take chars

def strRight (s : Bytes) (chars : Nat) : Bytes := s.drop (s.length - chars)

def strMidToEnd (s : Bytes) (index : Nat) : Bytes := s.drop index

/-- The two sides of the first `c`; without one, all of `s` and nothing. -/
def strSplitChar (s : Bytes) (c : UInt8) : Bytes × Bytes :=
  match strLocateText s (ministr c) with
  | none => (s, [])
  | some index => (strLeft s index, strMidToEnd s (index + 1))

/-- The index of the last occurrence of a character. -/
def strLocateCharReverse (s : Bytes) (c : UInt8) : Option Nat :=
  (strLocateChar s.reverse c).map fun index => s.length - 1 - index

def strSplitCharReverse (s : Bytes) (c : UInt8) : Bytes × Bytes :=
  match strLocateCharReverse s c with
  | none => (s, [])
  | some index => (strLeft s index, strMidToEnd s (index + 1))

/-- What follows the last slash, or the whole path when that is nothing. -/
def strBasename (path : Bytes) : Bytes :=
  let d := (strSplitCharReverse path 47).2
  if d.isEmpty then path else d

/-! ## What the searches find -/

theorem strLocateText_nil (s : Bytes) : strLocateText s [] = none := rfl

theorem strLocateText_eq {text : Bytes} (h : text ≠ []) (s : Bytes) :
    strLocateText s text = locate text s := by
  rw [strLocateText, if_neg]
  simpa using h

theorem ministr_eq {c : UInt8} (hc : c ≠ 0) : ministr c = [c] := if_neg hc

theorem strSplitChar_of_not_mem {s : Bytes} {c : UInt8} (h : c ∉ s) :
    strSplitChar s c = (s, []) := by
  have hnone : strLocateText s (ministr c) = none := by
    by_cases hc : c = 0
    · rw [hc]
      rfl
    · rw [ministr_eq hc, strLocateText_eq (by simp)]
      cases hloc : locate [c] s with
      | none => rfl
      | some k =>
          obtain ⟨pre, post, hfirst, -⟩ := locate_some hloc
          exact absurd (by rw [hfirst.split]; simp) h
  rw [strSplitChar, hnone]

theorem strSplitChar_null (s : Bytes) : strSplitChar s 0 = (s, []) := rfl

theorem firstAt_singleton {pre post : Bytes} {c : UInt8} (h : c ∉ pre) :
    FirstAt [c] (pre ++ c :: post) pre post := by
  refine ⟨rfl, fun pre' post' heq => ?_⟩
  by_contra hlt
  have hlt' : pre'.length < pre.length := by omega
  have hget : (pre ++ c :: post)[pre'.length]? = some c := by
    rw [heq]
    simp
  rw [List.getElem?_append_left hlt'] at hget
  exact h (List.mem_of_getElem? hget)

theorem strLocateChar_isSome {s : Bytes} {c : UInt8} (hc : c ≠ 0) :
    (strLocateChar s c).isSome = true ↔ c ∈ s := by
  rw [strLocateChar, ministr_eq hc, strLocateText_eq (List.cons_ne_nil c [])]
  constructor
  · intro h
    obtain ⟨k, hk⟩ := Option.isSome_iff_exists.mp h
    obtain ⟨pre, post, hfirst, -⟩ := locate_some hk
    rw [hfirst.split]
    simp
  · intro h
    obtain ⟨pre, post, rfl, hpre⟩ := List.eq_append_cons_of_mem h
    rw [(firstAt_singleton hpre).locate]
    rfl

theorem strSplitChar_append {pre post : Bytes} {c : UInt8} (hc : c ≠ 0) (h : c ∉ pre) :
    strSplitChar (pre ++ c :: post) c = (pre, post) := by
  have hloc : strLocateText (pre ++ c :: post) (ministr c) = some pre.length := by
    rw [ministr_eq hc, strLocateText_eq (by simp)]
    exact (firstAt_singleton h).locate
  rw [strSplitChar, hloc]
  simp [strLeft, strMidToEnd]

theorem strLocateChars_append {pre rest chars : Bytes} (h : ∀ c ∈ pre, c ∉ chars) :
    strLocateChars (pre ++ rest) chars =
      (strLocateChars rest chars).map fun r => (r.1 + pre.length, r.2) := by
  induction pre with
  | nil => simp
  | cons c pre ih =>
      rw [List.cons_append, strLocateChars, if_neg (h c (by simp)),
        ih fun d hd => h d (by simp [hd])]
      simp [Option.map_map, Function.comp_def, Nat.add_assoc]

end Vsftpd
