import Vsftpd.Decimal
import Vsftpd.Lib.ExceptRules
import Vsftpd.Parseconf.Settings
import Vsftpd.OctalCodec
import Mathlib.Data.List.DropRight

/-!
# Loading one setting

`vsf_parseconf_load_setting`, next to the change of the settings that a line denotes.
The two agree unless the value is all space, which the trimming of a string does not
survive, an octal number, which is read as 0, or a decimal number that is not one of an
`unsigned int`.
-/

namespace Vsftpd.Parseconf

open Vsftpd.Lib Vsftpd.Lib.Numerals Vsftpd.OctalCodec

/-- How the process ends: `die()` with a text, or a failed bounds check. -/
inductive Stop where
  | die (text : Bytes)
  | bounds
  deriving DecidableEq, Repr

/-! ## The code -/

def Settings.setStr (t : Settings) (v : StrTunable) (value : Option Bytes) : Settings :=
  { t with str := Function.update t.str v value }

def Settings.setBool (t : Settings) (v : BoolTunable) (value : Bool) : Settings :=
  { t with bool := Function.update t.bool v value }

def Settings.setUint (t : Settings) (v : UintTunable) (value : Nat) : Settings :=
  { t with uint := Function.update t.uint v value }

/-- A conversion that may end the process. -/
def orDie {α : Type} (x : Except String α) : Except Stop α :=
  x.mapError fun text => .die (bytes text)

/-- `newlen` is computed in an `unsigned int`, and the cast checks that `newlen`
characters from `h` are inside of the string. -/
def strStrdupTrimmed (s : Bytes) : Except Stop (Option Bytes) :=
  let h := (s.takeWhile isspace).length
  let t : Int := s.length - 1 - (s.reverse.takeWhile isspace).length
  let newlen := ((t - h + 1) % 2 ^ 32).toNat
  if h + newlen > s.length then .error .bounds
  else if newlen ≠ 0 then .ok (some ((s.drop h).take newlen))
  else .ok none

/-- An error in the file ends the program or passes over the setting. -/
def reject (message : String) (setting : Bytes) (errsFatal : Bool) (t : Settings) :
    Except Stop Settings :=
  if errsFatal then .error (.die (bytes message ++ setting)) else .ok t

def loadStr (v : StrTunable) (value : Bytes) (t : Settings) : Except Stop Settings :=
  if strIsempty value then .ok (t.setStr v none)
  else do
    let trimmed ← strStrdupTrimmed value
    return t.setStr v trimmed

def loadBool (v : BoolTunable) (setting value : Bytes) (errsFatal : Bool) (t : Settings) :
    Except Stop Settings :=
  let value := strUpper value
  if value = bytes "YES" ∨ value = bytes "TRUE" ∨ value = bytes "1" then .ok (t.setBool v true)
  else if value = bytes "NO" ∨ value = bytes "FALSE" ∨ value = bytes "0" then
    .ok (t.setBool v false)
  else reject "bad bool value in config file for: " setting errsFatal t

/-- A value that starts with 0 is taken for an octal one. -/
def loadUint (v : UintTunable) (value : Bytes) (t : Settings) : Except Stop Settings :=
  if value.head? = some 48 then do
    let number ← orDie (vsfSysutilOctalToUint value)
    return t.setUint v number
  else .ok (t.setUint v (strAtoi value % 2 ^ 32).toNat)

def loadTables (setting value : Bytes) (errsFatal : Bool) (t : Settings) :
    Except Stop Settings :=
  match parseconfStrArray.lookup setting with
  | some v => loadStr v value t
  | none =>
    if strIsempty value then
      reject "missing value in config file for: " setting errsFatal t
    else
      match parseconfBoolArray.lookup setting with
      | some v => loadBool v setting value errsFatal t
      | none =>
        match parseconfUintArray.lookup setting with
        | some v => loadUint v value t
        | none => reject "unrecognised variable in config file: " setting errsFatal t

/-- The source also counts the spaces before the setting, and does not use the count. -/
def vsfParseconfLoadSetting (pSetting : Bytes) (errsFatal : Bool) (t : Settings) :
    Except Stop Settings := do
  let _ ← orDie (vsfSysutilStrlen pSetting)
  let (setting, value) := strSplitChar (cString pSetting) 61
  loadTables setting value errsFatal t

/-! ## What a line denotes -/

/-- The change of one variable. -/
inductive Change where
  | str (v : StrTunable) (value : Option Bytes)
  | bool (v : BoolTunable) (value : Bool)
  | uint (v : UintTunable) (value : Nat)
  deriving DecidableEq, Repr

def Change.apply : Change → Settings → Settings
  | .str v value, t => t.setStr v value
  | .bool v value, t => t.setBool v value
  | .uint v value, t => t.setUint v value

/-- The settings after a line that makes `change`, if it makes one. -/
def applied (change : Option Change) (t : Settings) : Settings :=
  change.elim t fun c => c.apply t

def nameOf (line : Bytes) : Bytes := line.takeWhile (· ≠ 61)

def valueOf (line : Bytes) : Bytes := (line.dropWhile (· ≠ 61)).drop 1

/-- The value without the space around it; no string when that is nothing. -/
def stringDenoted (value : Bytes) : Option Bytes :=
  let trimmed := (value.dropWhile isspace).rdropWhile isspace
  if trimmed = [] then none else some trimmed

/-- The text is the word, which is in capitals, in letters of either case. -/
def spells : Bytes → Bytes → Bool
  | [], [] => true
  | c :: text, d :: word => (c = d || (65 ≤ d && d ≤ 90 && c = d + 32)) && spells text word
  | _, _ => false

def boolDenoted (value : Bytes) : Option Bool :=
  if ["YES", "TRUE", "1"].any fun word => spells value (bytes word) then some true
  else if ["NO", "FALSE", "0"].any fun word => spells value (bytes word) then some false
  else none

/-- The decimal number that the text begins with, 0 when it begins with none. -/
def decimalValue (s : Bytes) : Nat :=
  value 10 ((s.takeWhile vsfSysutilIsdigit).map digitValue)

def signedValue : Bytes → Int
  | 45 :: rest => -decimalValue rest
  | 43 :: rest => decimalValue rest
  | rest => decimalValue rest

/-- A number that begins with a 0 is octal; space may come before a decimal one. -/
def numberDenoted (value : Bytes) : Int :=
  if value.head? = some 48 then octalValue value else signedValue (value.dropWhile isspace)

/-- The variable that a line names, and the value that it gives. -/
inductive Assignment where
  | str (v : StrTunable) (value : Option Bytes)
  | bool (v : BoolTunable) (value : Bool)
  | uint (v : UintTunable) (number : Int)
  deriving DecidableEq, Repr

/-- `none` for a malformed line. -/
def denoted (setting value : Bytes) : Option Assignment :=
  match parseconfStrArray.lookup setting, parseconfBoolArray.lookup setting,
    parseconfUintArray.lookup setting with
  | some v, _, _ => some (.str v (stringDenoted value))
  | none, some v, _ => (boolDenoted value).map (.bool v)
  | none, none, some v => if value = [] then none else some (.uint v (numberDenoted value))
  | none, none, none => none

/-- From `t` to `t'` the variable takes the value, and no other changes. -/
def Carried : Option Assignment → Settings → Settings → Prop
  | none, t, t' => t' = t
  | some (.str v value), t, t' => t' = t.setStr v value
  | some (.bool v value), t, t' => t' = t.setBool v value
  | some (.uint v number), t, t' => (t'.uint v : Int) = number ∧ t' = t.setUint v (t'.uint v)

variable {s : Bytes}

/-! ## Splitting and trimming -/

theorem split_setting (text : Bytes) : strSplitChar text 61 = (nameOf text, valueOf text) := by
  have hjoin : nameOf text ++ text.dropWhile (· ≠ 61) = text := List.takeWhile_append_dropWhile
  have hname : (61 : UInt8) ∉ nameOf text := by
    intro hmem
    have hne := List.mem_takeWhile_imp (p := fun c : UInt8 => decide (c ≠ 61)) hmem
    exact of_decide_eq_true hne rfl
  unfold valueOf
  cases hrest : text.dropWhile (· ≠ 61) with
  | nil =>
      rw [hrest, List.append_nil] at hjoin
      rw [hjoin] at hname
      rw [strSplitChar_of_not_mem hname, hjoin]
      rfl
  | cons c post =>
      have hc : c = 61 := by
        have hstop := List.head_dropWhile_not (fun c : UInt8 => decide (c ≠ 61)) (l := text)
          (by rw [hrest]; exact List.cons_ne_nil c post)
        simp only [hrest, List.head_cons] at hstop
        exact not_not.mp (of_decide_eq_false hstop)
      calc
        strSplitChar text 61 = strSplitChar (nameOf text ++ 61 :: post) 61 := by
          rw [← hc, ← hrest, hjoin]
        _ = (nameOf text, post) := strSplitChar_append (by decide) hname

theorem trim_split (s : Bytes) :
    s = s.takeWhile isspace ++
      ((s.dropWhile isspace).rdropWhile isspace ++ (s.dropWhile isspace).rtakeWhile isspace) := by
  rw [List.rdropWhile_append_rtakeWhile, List.takeWhile_append_dropWhile]

/-- `newlen` wraps around to `2 ^ 32` less the length. -/
theorem strdupTrimmed_blank (hblank : ∀ c ∈ s, isspace c = true) (hne : s ≠ [])
    (hlen : s.length < 2 ^ 32) : strStrdupTrimmed s = .error .bounds := by
  have hfront : s.takeWhile isspace = s := List.takeWhile_eq_self_iff.mpr hblank
  have hback : s.reverse.takeWhile isspace = s.reverse := by
    rw [List.takeWhile_eq_self_iff]
    intro c hc
    exact hblank c (List.mem_reverse.mp hc)
  have hpos : 0 < s.length := List.length_pos_of_ne_nil hne
  unfold strStrdupTrimmed
  rw [hfront, hback, List.length_reverse]
  dsimp only
  rw [if_pos (by omega)]

/-- The space behind a text that is not all space. -/
theorem trailing_length (hne : s.dropWhile isspace ≠ []) :
    (s.reverse.takeWhile isspace).length = ((s.dropWhile isspace).rtakeWhile isspace).length := by
  have hstart : isspace ((s.dropWhile isspace).head hne) = false :=
    List.head_dropWhile_not isspace hne
  have hsome : ¬ ((s.dropWhile isspace).reverse.takeWhile isspace).length =
      (s.dropWhile isspace).reverse.length := by
    intro hlen
    have hall := List.takeWhile_eq_self_iff.mp
      ((List.takeWhile_prefix isspace).eq_of_length hlen)
    have hhead := hall _ (List.mem_reverse.mpr (List.head_mem hne))
    rw [hstart] at hhead
    exact Bool.noConfusion hhead
  have hreverse : s.reverse = (s.dropWhile isspace).reverse ++ (s.takeWhile isspace).reverse := by
    rw [← List.reverse_append, List.takeWhile_append_dropWhile]
  rw [hreverse, List.takeWhile_append, if_neg hsome, List.rtakeWhile, List.length_reverse]

theorem strdupTrimmed_text (htext : ∃ c ∈ s, isspace c = false) (hlen : s.length < 2 ^ 32) :
    strStrdupTrimmed s = .ok (stringDenoted s) := by
  obtain ⟨c, hc, hcspace⟩ := htext
  have hne : s.dropWhile isspace ≠ [] := by
    intro hnil
    rw [List.dropWhile_eq_nil_iff.mp hnil c hc] at hcspace
    exact Bool.noConfusion hcspace
  have htrim : (s.dropWhile isspace).rdropWhile isspace ≠ [] := by
    intro hnil
    have hall := List.rdropWhile_eq_nil_iff.mp hnil _ (List.head_mem hne)
    rw [List.head_dropWhile_not isspace hne] at hall
    exact Bool.noConfusion hall
  have hpos : 0 < ((s.dropWhile isspace).rdropWhile isspace).length :=
    List.length_pos_of_ne_nil htrim
  have hsplit := trim_split s
  have hparts : s.length = (s.takeWhile isspace).length +
      (((s.dropWhile isspace).rdropWhile isspace).length +
        ((s.dropWhile isspace).rtakeWhile isspace).length) := by
    rw [← List.length_append, ← List.length_append, ← hsplit]
  have hnewlen : (((s.length : Int) - 1 - (s.reverse.takeWhile isspace).length -
      (s.takeWhile isspace).length + 1) % 2 ^ 32).toNat =
        ((s.dropWhile isspace).rdropWhile isspace).length := by
    rw [trailing_length hne]
    omega
  have hslice : (s.drop (s.takeWhile isspace).length).take
      ((s.dropWhile isspace).rdropWhile isspace).length =
        (s.dropWhile isspace).rdropWhile isspace := by
    calc
      _ = ((s.takeWhile isspace ++ ((s.dropWhile isspace).rdropWhile isspace ++
          (s.dropWhile isspace).rtakeWhile isspace)).drop (s.takeWhile isspace).length).take
            ((s.dropWhile isspace).rdropWhile isspace).length := by rw [← hsplit]
      _ = (s.dropWhile isspace).rdropWhile isspace := by rw [List.drop_left, List.take_left]
  unfold strStrdupTrimmed stringDenoted
  dsimp only
  rw [hnewlen, if_neg (by omega), if_pos (by omega), if_neg htrim, hslice]

/-! ## One variable -/

theorem stringDenoted_nil : stringDenoted [] = none := rfl

theorem loadStr_iff (v : StrTunable) (t : Settings) (hlen : s.length < 2 ^ 32) :
    loadStr v s t = .ok (t.setStr v (stringDenoted s)) ↔
      s = [] ∨ ∃ c ∈ s, isspace c = false := by
  unfold loadStr
  by_cases hempty : s = []
  · rw [hempty, stringDenoted_nil]
    exact iff_of_true rfl (Or.inl rfl)
  rw [if_neg (by simpa [strIsempty] using hempty), or_iff_right hempty]
  by_cases htext : ∃ c ∈ s, isspace c = false
  · rw [strdupTrimmed_text htext hlen]
    exact iff_of_true rfl htext
  · have hblank : ∀ c ∈ s, isspace c = true := by
      intro c hc
      by_contra hspace
      exact htext ⟨c, hc, Bool.eq_false_iff.mpr hspace⟩
    rw [strdupTrimmed_blank hblank hempty hlen]
    exact iff_of_false (fun h => by cases h) htext

theorem toNat_toupper (c : UInt8) : (vsfSysutilToupper c).toNat =
    if 97 ≤ c.toNat ∧ c.toNat ≤ 122 then c.toNat - 32 else c.toNat := by
  unfold vsfSysutilToupper
  by_cases h : 97 ≤ c ∧ c ≤ 122
  · have hlow : (32 : UInt8) ≤ c := UInt8.le_trans (by decide) h.1
    rw [if_pos h, UInt8.toNat_sub_of_le c 32 hlow]
    exact (if_pos h).symm
  · rw [if_neg h]
    exact (if_neg h).symm

theorem toupper_eq_iff {c d : UInt8} (hd : vsfSysutilToupper d = d) :
    vsfSysutilToupper c = d ↔ c = d ∨ (65 ≤ d ∧ d ≤ 90) ∧ c = d + 32 := by
  have hcapital := congrArg UInt8.toNat hd
  have hc := c.toNat_lt
  rw [toNat_toupper] at hcapital
  rw [← UInt8.toNat_inj, ← UInt8.toNat_inj, ← UInt8.toNat_inj, toNat_toupper, UInt8.toNat_add]
  show _ ↔ _ ∨ (65 ≤ d.toNat ∧ d.toNat ≤ 90) ∧ c.toNat = (d.toNat + 32) % 256
  split_ifs at hcapital ⊢ <;> omega

theorem spells_iff {word : Bytes} (hword : strUpper word = word) :
    spells s word = true ↔ strUpper s = word := by
  induction s generalizing word with
  | nil =>
      cases word with
      | nil => exact iff_of_true rfl rfl
      | cons d word => exact iff_of_false Bool.false_ne_true (List.cons_ne_nil d word).symm
  | cons c s ih =>
      cases word with
      | nil => exact iff_of_false Bool.false_ne_true (List.cons_ne_nil _ _)
      | cons d word =>
          obtain ⟨hd, hrest⟩ := List.cons.inj hword
          show ((c = d || (65 ≤ d && d ≤ 90 && c = d + 32)) && spells s word) = true ↔
            vsfSysutilToupper c :: strUpper s = d :: word
          rw [List.cons.injEq, ← ih hrest, toupper_eq_iff hd]
          simp only [Bool.and_eq_true, Bool.or_eq_true, decide_eq_true_eq]

/-- The words that the code compares the capitals of the value with. -/
theorem boolDenoted_eq (s : Bytes) :
    boolDenoted s =
      if strUpper s = bytes "YES" ∨ strUpper s = bytes "TRUE" ∨ strUpper s = bytes "1" then
        some true
      else if strUpper s = bytes "NO" ∨ strUpper s = bytes "FALSE" ∨ strUpper s = bytes "0" then
        some false
      else none := by
  have hword : ∀ a ∈ ["YES", "TRUE", "1", "NO", "FALSE", "0"],
      (spells s (bytes a) = true ↔ strUpper s = bytes a) := by
    have hcapitals : ∀ a ∈ ["YES", "TRUE", "1", "NO", "FALSE", "0"],
        strUpper (bytes a) = bytes a := by decide +kernel
    exact fun a ha => spells_iff (hcapitals a ha)
  simp only [List.forall_mem_cons] at hword
  obtain ⟨hyes, htrue, hone, hno, hfalse, hzero, -⟩ := hword
  unfold boolDenoted
  simp only [List.any_cons, List.any_nil, Bool.or_eq_true, Bool.or_false, hyes, htrue, hone, hno,
    hfalse, hzero]

theorem loadBool_eq (v : BoolTunable) (setting s : Bytes) (t : Settings) :
    loadBool v setting s false t = .ok (applied ((boolDenoted s).map (.bool v)) t) := by
  rw [boolDenoted_eq]
  unfold loadBool reject
  dsimp only
  split_ifs
  · rfl
  · rfl
  · contradiction
  · rfl

/-! ## Numbers -/

theorem toInt32_mod (n : Int) : toInt32 n % 2 ^ 32 = n % 2 ^ 32 := by
  unfold toInt32
  dsimp only
  split_ifs <;> omega

/-- A decimal number is held at the ends of a `long`, and cut down to an `unsigned int`. -/
theorem strtolDigits_eq (negative : Bool) (s : Bytes) :
    strtolDigits negative s =
      if negative then max (-(decimalValue s : Int)) (-2 ^ 63)
      else min (decimalValue s : Int) (2 ^ 63 - 1) := by
  have hvalue : (s.takeWhile vsfSysutilIsdigit).foldl (fun n c => n * 10 + digitValue c) 0 =
      decimalValue s := List.foldl_map.symm
  unfold strtolDigits
  rw [hvalue]

theorem unsigned_plus_iff (rest : Bytes) :
    (((toInt32 (strtolDigits false rest) % 2 ^ 32).toNat : Nat) : Int) = decimalValue rest ↔
      0 ≤ (decimalValue rest : Int) ∧ (decimalValue rest : Int) < 2 ^ 32 := by
  rw [toInt32_mod, strtolDigits_eq, if_neg Bool.false_ne_true]
  omega

theorem unsigned_minus_iff (rest : Bytes) :
    (((toInt32 (strtolDigits true rest) % 2 ^ 32).toNat : Nat) : Int) = -decimalValue rest ↔
      0 ≤ -(decimalValue rest : Int) ∧ -(decimalValue rest : Int) < 2 ^ 32 := by
  rw [toInt32_mod, strtolDigits_eq, if_pos rfl]
  omega

/-- The number is stored as it is when an `unsigned int` holds it. -/
theorem strAtoi_unsigned_iff (s : Bytes) :
    (((strAtoi s % 2 ^ 32).toNat : Nat) : Int) = signedValue (s.dropWhile isspace) ↔
      0 ≤ signedValue (s.dropWhile isspace) ∧ signedValue (s.dropWhile isspace) < 2 ^ 32 := by
  unfold strAtoi vsfSysutilAtoi
  generalize s.dropWhile isspace = text
  split
  · exact unsigned_minus_iff _
  · exact unsigned_plus_iff _
  · next hminus hplus =>
      rw [signedValue.eq_3 text hminus hplus]
      exact unsigned_plus_iff text

/-- What a numeric setting is given. -/
def numberStored (value : Bytes) : Nat :=
  if value.head? = some 48 then (vsfSysutilOctalToUint value).toOption.getD 0
  else (strAtoi value % 2 ^ 32).toNat

theorem octalToUint_short (hlen : s.length ≤ intMax / 8) (hoctal : s.head? = some 48) :
    vsfSysutilOctalToUint s = .ok 0 := by
  obtain ⟨rest, rfl⟩ := List.head?_eq_some_iff.mp hoctal
  exact octalToUint_zero ((List.takeWhile_prefix _).length_le.trans hlen)

theorem loadUint_eq (v : UintTunable) (t : Settings) (hlen : s.length ≤ intMax / 8) :
    loadUint v s t = .ok (t.setUint v (numberStored s)) := by
  unfold loadUint numberStored
  by_cases hoctal : s.head? = some 48
  · rw [if_pos hoctal, if_pos hoctal, octalToUint_short hlen hoctal]
    rfl
  · rw [if_neg hoctal, if_neg hoctal]

/-- An octal number that is 0, or a decimal one that an `unsigned int` holds. -/
def NumberKept (value : Bytes) : Prop :=
  if value.head? = some 48 then octalValue value = 0
  else 0 ≤ numberDenoted value ∧ numberDenoted value < 2 ^ 32

/-- The octal branch stores 0 whatever follows the first digit. -/
theorem numberStored_iff (hlen : s.length ≤ intMax / 8) :
    (numberStored s : Int) = numberDenoted s ↔ NumberKept s := by
  unfold numberStored NumberKept
  by_cases hoctal : s.head? = some 48
  · rw [if_pos hoctal, if_pos hoctal, octalToUint_short hlen hoctal, numberDenoted, if_pos hoctal]
    exact Int.natCast_inj.trans eq_comm
  · rw [if_neg hoctal, if_neg hoctal, numberDenoted, if_neg hoctal]
    exact strAtoi_unsigned_iff s

/-! ## A line -/

/-- No string of space only, and no number that is not kept. -/
def Loadable (setting value : Bytes) : Prop :=
  match parseconfStrArray.lookup setting, parseconfBoolArray.lookup setting,
    parseconfUintArray.lookup setting with
  | some _, _, _ => value = [] ∨ ∃ c ∈ value, isspace c = false
  | none, none, some _ => value = [] ∨ NumberKept value
  | _, _, _ => True

theorem boolDenoted_nil : boolDenoted [] = none := by decide

theorem carried_bool_iff (v : BoolTunable) (value : Option Bool) (t t' : Settings) :
    Carried (value.map (.bool v)) t t' ↔ t' = applied (value.map (.bool v)) t := by
  cases value <;> exact Iff.rfl

theorem carried_uint_iff (v : UintTunable) (number : Int) (n : Nat) (t : Settings) :
    Carried (some (.uint v number)) t (t.setUint v n) ↔ (n : Int) = number := by
  have hval : (t.setUint v n).uint v = n := by
    unfold Settings.setUint
    exact Function.update_self v n t.uint
  show (((t.setUint v n).uint v : Nat) : Int) = number ∧ _ ↔ _
  rw [hval]
  exact and_iff_left rfl

theorem exists_ok_iff {x : Except Stop Settings} {t : Settings} {P : Settings → Prop}
    (h : x = .ok t) : (∃ t', x = .ok t' ∧ P t') ↔ P t := by
  rw [h]
  simp

theorem loadTables_iff (setting : Bytes) (t : Settings) (hlen : s.length ≤ intMax / 8) :
    (∃ t', loadTables setting s false t = .ok t' ∧ Carried (denoted setting s) t t') ↔
      Loadable setting s := by
  have hlen' : s.length < 2 ^ 32 := by
    unfold intMax at hlen
    omega
  unfold loadTables denoted Loadable
  cases parseconfStrArray.lookup setting with
  | some v =>
      show (∃ t', loadStr v s t = .ok t' ∧ t' = t.setStr v (stringDenoted s)) ↔ _
      rw [exists_eq_right]
      exact loadStr_iff v t hlen'
  | none =>
      by_cases hempty : s = []
      · rw [hempty]
        cases parseconfBoolArray.lookup setting with
        | some v =>
            rw [boolDenoted_nil]
            exact iff_of_true ⟨t, rfl, rfl⟩ trivial
        | none =>
            cases parseconfUintArray.lookup setting with
            | some v => exact iff_of_true ⟨t, rfl, rfl⟩ (.inl rfl)
            | none => exact iff_of_true ⟨t, rfl, rfl⟩ trivial
      · have hvalue : strIsempty s = false := by simpa [strIsempty] using hempty
        simp only [hvalue, hempty, if_false, Bool.false_eq_true]
        cases parseconfBoolArray.lookup setting with
        | some v =>
            refine iff_of_true ⟨_, loadBool_eq v setting s t, ?_⟩ trivial
            exact (carried_bool_iff v _ t _).mpr rfl
        | none =>
            cases parseconfUintArray.lookup setting with
            | some v =>
                show (∃ t', loadUint v s t = .ok t' ∧ _) ↔ False ∨ _
                rw [exists_ok_iff (loadUint_eq v t hlen), carried_uint_iff, numberStored_iff hlen,
                  false_or]
            | none => exact iff_of_true ⟨t, rfl, rfl⟩ trivial

theorem valueOf_length_le (line : Bytes) : (valueOf line).length ≤ line.length := by
  unfold valueOf
  rw [List.length_drop]
  exact (Nat.sub_le _ _).trans (List.length_dropWhile_le _ _)

theorem loadSetting_reload_iff (pSetting : Bytes) (t : Settings) :
    (∃ t', vsfParseconfLoadSetting pSetting false t = .ok t' ∧
        Carried (denoted (nameOf (cString pSetting)) (valueOf (cString pSetting))) t t') ↔
      (cString pSetting).length ≤ intMax / 8 ∧
        Loadable (nameOf (cString pSetting)) (valueOf (cString pSetting)) := by
  unfold vsfParseconfLoadSetting orDie
  by_cases hlen : (cString pSetting).length ≤ intMax / 8
  · rw [strlen_eq hlen, Except.mapError, ok_bind, split_setting, and_iff_right hlen]
    exact loadTables_iff _ t ((valueOf_length_le _).trans hlen)
  · rw [strlen_long (Nat.lt_of_not_le hlen), Except.mapError, error_bind]
    exact iff_of_false (fun h => by obtain ⟨t', ht', -⟩ := h; cases ht') fun h => hlen h.1

def unset : Settings where
  str := fun _ => none
  bool := fun _ => false
  uint := fun _ => 0

/-- A value of one space ends the server; an octal mask is stored as 0, and the number
after the last of an `unsigned int` too. -/
theorem loadSetting_reload_fails :
    (vsfParseconfLoadSetting (bytes "ftpd_banner= ") false unset).map (·.str .ftpdBanner) =
        .error .bounds ∧
      (vsfParseconfLoadSetting (bytes "local_umask=077") false unset).map (·.uint .localUmask) =
        .ok 0 ∧
      numberDenoted (bytes "077") = 0o77 ∧
      (vsfParseconfLoadSetting (bytes "max_clients=4294967296") false unset).map
        (·.uint .maxClients) = .ok 0 ∧
      numberDenoted (bytes "4294967296") = 4294967296 := by
  decide +kernel

end Vsftpd.Parseconf
