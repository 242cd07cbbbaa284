import Vsftpd.Convert
import Vsftpd.SockAddr

/-!
# Address texts

`ipaddrparse.c`.
-/

namespace Vsftpd

/-- `items` fields are still to come. -/
def ucharFields (sep : UInt8) : Nat → Bytes → Option Bytes
  | 0, _ => some []
  | items + 1, s =>
    let field := strSplitChar s sep
    if items ≠ 0 ∧ strIsempty field.2 ∨ items = 0 ∧ ¬ strIsempty field.2 then none
    else
      let thisNumber := strAtoi field.1
      if thisNumber < 0 ∨ thisNumber > 255 then none
      else (ucharFields sep items field.2).map (UInt8.ofNat thisNumber.toNat :: ·)

def vsfSysutilParseUcharStringSep (s : Bytes) (sep : UInt8) (items : Nat) : Option Bytes :=
  ucharFields sep items s

theorem ucharFields_length {sep : UInt8} {items : Nat} {s vals : Bytes}
    (h : ucharFields sep items s = some vals) : vals.length = items := by
  induction items generalizing s vals with
  | zero =>
      obtain rfl := Option.some.inj h
      rfl
  | succ items ih =>
      rw [ucharFields] at h
      dsimp only at h
      split_ifs at h
      obtain ⟨rest, hrest, rfl⟩ := Option.map_eq_some_iff.mp h
      rw [List.length_cons, ih hrest]

def vsfSysutilParseIpv4 (s : Bytes) : Option InAddr :=
  match h : vsfSysutilParseUcharStringSep s 46 4 with
  | none => none
  | some vals => some ⟨vals, ucharFields_length h⟩

def hexDigit (c : UInt8) : Option Nat :=
  let ch := vsfSysutilToupper c
  if 48 ≤ ch ∧ ch ≤ 57 then some (ch.toNat - 48)
  else if 65 ≤ ch ∧ ch ≤ 70 then some (ch.toNat - 65 + 10)
  else none

/-- The value of a group, none when a character is no hex digit or the value leaves
16 bits. -/
def hexLoop : Bytes → Nat → Option Nat
  | [], val => some val
  | c :: rest, val =>
    match hexDigit c with
    | none => none
    | some digit => if val * 16 + digit > 0xFFFF then none else hexLoop rest (val * 16 + digit)

def ipv6ParseHex (s : Bytes) : Option Bytes :=
  (hexLoop s 0).map fun val => [UInt8.ofNat (val / 256), UInt8.ofNat (val % 256)]

/-- The dots seen, the bytes of the quad so far and the one under way. -/
def dotquadLoop : Bytes → Nat → Bytes → Nat → Bool → Option (Nat × Bytes × Nat × Bool)
  | [], dots, done, val, seenChar => some (dots, done, val, seenChar)
  | c :: rest, dots, done, val, seenChar =>
    if c = 46 then
      if !seenChar ∨ dots = 3 then none
      else dotquadLoop rest (dots + 1) (done ++ [UInt8.ofNat val]) 0 false
    else if vsfSysutilIsdigit c then
      if val * 10 + digitValue c > 255 then none
      else dotquadLoop rest dots done (val * 10 + digitValue c) true
    else none

def ipv4ParseDotquad (s : Bytes) : Option Bytes :=
  match dotquadLoop s 0 [] 0 false with
  | some (3, done, val, true) => some (done ++ [UInt8.ofNat val])
  | _ => none

/-- The bytes of groups separated by single colons; every round eats a group. -/
def ipv6Groups : Nat → Bytes → Option Bytes
  | 0, _ => some []
  | n + 1, s =>
    if strIsempty s then some []
    else
      let group := strSplitChar s 58
      if strIsempty group.1 then none
      else
        let parsed :=
          if (strLocateChar group.1 46).isSome then ipv4ParseDotquad group.1
          else ipv6ParseHex group.1
        match parsed with
        | none => none
        | some out => (ipv6Groups n group.2).map (out ++ ·)

def ipv6ParseMain (s : Bytes) : Option Bytes := ipv6Groups (s.length + 1) s

/-- The bytes of the address when the bounds check at the end passes; with nothing
after a double colon, or without one, nothing is filled up. -/
def vsfSysutilParseIpv6 (s : Bytes) : Except Unit (Option In6Addr) :=
  let sides := strSplitText s (bytes "::")
  match ipv6ParseMain sides.1, ipv6ParseMain sides.2 with
  | some lhs, some rhs =>
    if lhs.length + rhs.length > 16 then .ok none
    else
      let ret :=
        if rhs.length > 0 then
          lhs ++ List.replicate (16 - (lhs.length + rhs.length)) 0 ++ rhs
        else lhs
      -- the cast to sixteen bytes
      if h : ret.length = 16 then .ok (some ⟨ret, h⟩) else .error ()
  | _, _ => .ok none

end Vsftpd
