import Vsftpd.Lib.ExceptRules
import Vsftpd.Str

/-!
# Text conversions

The parts of `str.c` and `sysutil.c` that turn numbers into text and back, and
that rewrite a text.
-/

namespace Vsftpd

open Vsftpd.Lib Vsftpd.Lib.TextSearch

def intMax : Nat := 2147483647

def strSplitText (s text : Bytes) : Bytes × Bytes :=
  match strLocateText s text with
  | none => (s, [])
  | some index => (strLeft s index, strMidToEnd s (index + text.length))

theorem splitText_found {s text pre post : Bytes} (htext : text ≠ [])
    (h : FirstAt text s pre post) : strSplitText s text = (pre, post) := by
  rw [strSplitText, strLocateText_eq htext, h.locate]
  show (s.take pre.length, s.drop (pre.length + text.length)) = _
  rw [h.split, List.take_left, ← List.append_assoc, ← List.length_append, List.drop_left]

theorem splitText_missing {s text : Bytes} (htext : text ≠ []) (h : ¬ Occurs text s) :
    strSplitText s text = (s, []) := by
  rw [strSplitText, strLocateText_eq htext]
  cases hloc : locate text s with
  | none => rfl
  | some i =>
      obtain ⟨pre, post, hfirst, -⟩ := locate_some hloc
      exact absurd hfirst.occurs h

theorem splitText_cases (s : Bytes) {text : Bytes} (htext : text ≠ []) :
    (¬ Occurs text s ∧ strSplitText s text = (s, [])) ∨
      ∃ pre post, FirstAt text s pre post ∧ strSplitText s text = (pre, post) := by
  cases hloc : locate text s with
  | none =>
      have hno := locate_none hloc
      exact .inl ⟨hno, splitText_missing htext hno⟩
  | some i =>
      obtain ⟨pre, post, hfirst, -⟩ := locate_some hloc
      exact .inr ⟨pre, post, hfirst, splitText_found htext hfirst⟩

def strSplitTextReverse (s text : Bytes) : Bytes × Bytes :=
  match strLocateTextReverse s text with
  | none => (s, [])
  | some index => (strLeft s index, strMidToEnd s (index + text.length))

def vsfSysutilToupper (c : UInt8) : UInt8 := if 97 ≤ c ∧ c ≤ 122 then c - 32 else c

def strUpper (s : Bytes) : Bytes := s.map vsfSysutilToupper

def strReplaceChar (s : Bytes) (old new : UInt8) : Bytes :=
  s.map fun c => if c = old then new else c

/-- The chunks up to each hit; every hit shortens what is left. -/
def replaceTextLoop (old new : Bytes) : Nat → Bytes → Bytes
  | 0, _ => []
  | n + 1, chunk =>
    let split := strSplitText chunk old
    split.1 ++ (if split.1.length < chunk.length then new else []) ++
      if split.2.isEmpty then [] else replaceTextLoop old new n split.2

def strReplaceText (s old new : Bytes) : Bytes := replaceTextLoop old new (s.length + 1) s

/-- The next line from `pos` and the position after it. -/
def strGetline (s : Bytes) (pos : Nat) : Option (Bytes × Nat) :=
  if pos = s.length then none
  else
    let line := (s.drop pos).takeWhile (· ≠ 10)
    let curr := pos + line.length
    some (line, if curr < s.length then curr + 1 else curr)

/-- The text up to the terminator. -/
def cString (s : Bytes) : Bytes := s.takeWhile (· ≠ 0)

/-- A text that is too long to be one ends the process. -/
def vsfSysutilStrlen (text : Bytes) : Except String Nat :=
  let ret := (cString text).length
  if ret > intMax / 8 then .error "string suspiciously long" else .ok ret

theorem strlen_eq {s : Bytes} (h : (cString s).length ≤ intMax / 8) :
    vsfSysutilStrlen s = .ok (cString s).length :=
  if_neg (Nat.not_lt.mpr h)

theorem strlen_long {s : Bytes} (h : intMax / 8 < (cString s).length) :
    vsfSysutilStrlen s = .error "string suspiciously long" :=
  if_pos h

/-- What follows a measuring fails where the measuring does, if it cannot fail itself. -/
theorem strlen_error {α : Type} {s : Bytes} {f : Nat → α} {text : String}
    (h : (vsfSysutilStrlen s >>= fun n => .ok (f n)) = .error text) :
    text = "string suspiciously long" := by
  by_cases hlen : (cString s).length ≤ intMax / 8
  · rw [strlen_eq hlen, ok_bind] at h
    cases h
  · rw [strlen_long (Nat.lt_of_not_le hlen), error_bind] at h
    exact (Except.error.inj h).symm

def vsfSysutilIsdigit (c : UInt8) : Bool := 48 ≤ c ∧ c ≤ 57

def isspace (c : UInt8) : Bool := c = 32 ∨ 9 ≤ c ∧ c ≤ 13

def digitValue (c : UInt8) : Nat := c.toNat - 48

/-- A value cut down to an `int`. -/
def toInt32 (n : Int) : Int :=
  let u := n % 2 ^ 32
  if u < 2 ^ 31 then u else u - 2 ^ 32

/-- The digits that `strtol` reads, held at the ends of a `long`. -/
def strtolDigits (negative : Bool) (s : Bytes) : Int :=
  let magnitude := (s.takeWhile vsfSysutilIsdigit).foldl (fun n c => n * 10 + digitValue c) 0
  if negative then max (-(magnitude : Int)) (-2 ^ 63) else min (magnitude : Int) (2 ^ 63 - 1)

/-- `atoi(3)`: `strtol` cut down to an `int`. -/
def vsfSysutilAtoi (s : Bytes) : Int :=
  match s.dropWhile isspace with
  | 45 :: rest => toInt32 (strtolDigits true rest)
  | 43 :: rest => toInt32 (strtolDigits false rest)
  | rest => toInt32 (strtolDigits false rest)

def strAtoi (s : Bytes) : Int := vsfSysutilAtoi s

/-- From the last character to the first. -/
def filesizeLoop : Bytes → Int → Int → Int
  | [], result, _ => result
  | c :: rest, result, mult =>
    if vsfSysutilIsdigit c then filesizeLoop rest (result + digitValue c * mult) (mult * 10) else 0

def vsfSysutilAToFilesizeT (s : Bytes) : Except String Int := do
  let len ← vsfSysutilStrlen s
  return if len > 15 then 0 else filesizeLoop (cString s).reverse 0 1

theorem aToFilesizeT_error {s : Bytes} {text : String}
    (h : vsfSysutilAToFilesizeT s = .error text) : text = "string suspiciously long" :=
  strlen_error h

/-- The digit that is looked at is the first of the text in every round. -/
def octalLoop (digit : UInt8) : Bytes → Bool → Nat → Nat
  | [], _, result => result
  | _ :: rest, seenNonZeroDigit, result =>
    if ¬ vsfSysutilIsdigit digit ∨ digit > 55 then result
    else
      let seen := seenNonZeroDigit || digit ≠ 48
      octalLoop digit rest seen
        (if seen then (result * 8 + digitValue digit) % 2 ^ 32 else result)

def vsfSysutilOctalToUint (s : Bytes) : Except String Nat := do
  let _ ← vsfSysutilStrlen s
  return match cString s with
    | [] => 0
    | digit :: rest => octalLoop digit (digit :: rest) false 0

theorem octalToUint_error {s : Bytes} {text : String}
    (h : vsfSysutilOctalToUint s = .error text) : text = "string suspiciously long" :=
  strlen_error h

def digitsText (base n : Nat) : Bytes := (Nat.toDigits base n).map fun c => UInt8.ofNat c.toNat

def vsfSysutilUintToOctal (n : Nat) : Bytes := if n = 0 then [48] else 48 :: digitsText 8 n

def vsfSysutilUlongToStr (n : Nat) : Bytes := digitsText 10 n

def vsfSysutilFilesizeTToStr (n : Int) : Bytes :=
  if n < 0 then 45 :: digitsText 10 n.natAbs else digitsText 10 n.natAbs

/-! ## `vsf_sysutil_parse_time` -/

/-- `struct tm`, as far as it is filled in. -/
structure Tm where
  year : Int := 0
  mon : Int := 0
  mday : Int := 0
  hour : Int := 0
  min : Int := 0
  sec : Int := 0
  deriving DecidableEq, Repr

/-- At most `maxsize` characters are copied, and then the last of them is overwritten
with the terminator. -/
def vsfSysutilStrcpy (src : Bytes) (maxsize : Nat) : Bytes :=
  cString (src.take (maxsize - 1))

/-- What `mktime` is given; the text is the first 14 characters at least. -/
def vsfSysutilParseTime (text : Bytes) : Except String Tm := do
  let len ← vsfSysutilStrlen text
  let date : Tm :=
    if len ≥ 8 then
      { year := vsfSysutilAtoi (vsfSysutilStrcpy text 4) - 1900
        mon := vsfSysutilAtoi (vsfSysutilStrcpy (text.drop 4) 2) - 1
        mday := vsfSysutilAtoi (vsfSysutilStrcpy (text.drop 6) 2) }
    else {}
  return if len ≥ 14 then
    { date with
      hour := vsfSysutilAtoi (vsfSysutilStrcpy (text.drop 8) 2)
      min := vsfSysutilAtoi (vsfSysutilStrcpy (text.drop 10) 2)
      sec := vsfSysutilAtoi (vsfSysutilStrcpy (text.drop 12) 2) }
  else date

theorem parseTime_error {s : Bytes} {text : String} (h : vsfSysutilParseTime s = .error text) :
    text = "string suspiciously long" :=
  strlen_error h

end Vsftpd
