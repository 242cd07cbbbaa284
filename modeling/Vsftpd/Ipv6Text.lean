import Vsftpd.UcharFields

/-!
# Texts of IPv6 addresses

The text forms of an address, and what `vsf_sysutil_parse_ipv6` makes of a text.
-/

namespace Vsftpd

open Vsftpd.Lib.Numerals Vsftpd.Lib.TextSearch

variable {f g s vals v w : Bytes} {n : Nat}

/-! ## Groups -/

/-- `0` to `9`, `A` to `F` and `a` to `f`. -/
def hexDigitValue (c : UInt8) : Option Nat :=
  if 48 ≤ c ∧ c ≤ 57 then some (c.toNat - 48)
  else if 65 ≤ c ∧ c ≤ 70 then some (c.toNat - 55)
  else if 97 ≤ c ∧ c ≤ 102 then some (c.toNat - 87)
  else none

def hexValue (g : Bytes) : Nat := value 16 (g.map fun c => (hexDigitValue c).getD 0)

/-- A number of sixteen bits, in hexadecimal. -/
structure IsHexGroup (g : Bytes) : Prop where
  nonempty : g ≠ []
  digits : ∀ c ∈ g, (hexDigitValue c).isSome = true
  le : hexValue g ≤ 0xFFFF

def hexBytes (g : Bytes) : Bytes := [UInt8.ofNat (hexValue g / 256), UInt8.ofNat (hexValue g % 256)]

theorem hexDigit_eq (c : UInt8) : hexDigit c = hexDigitValue c := by
  have hall : ∀ i : Fin 256, hexDigit (UInt8.ofNat i) = hexDigitValue (UInt8.ofNat i) := by
    decide +kernel
  have hc := hall ⟨c.toNat, c.toNat_lt⟩
  rwa [UInt8.ofNat_toNat] at hc

theorem le_valueFrom (b val : Nat) (hb : 0 < b) (ds : List Nat) : val ≤ valueFrom b val ds := by
  induction ds generalizing val with
  | nil => exact Nat.le_refl val
  | cons d ds ih =>
      rw [valueFrom_cons]
      calc
        val ≤ val * b := Nat.le_mul_of_pos_right val hb
        _ ≤ val * b + d := Nat.le_add_right _ d
        _ ≤ valueFrom b (val * b + d) ds := ih _

theorem hexLoop_iff {val r : Nat} (hval : val ≤ 0xFFFF) :
    hexLoop s val = some r ↔ (∀ c ∈ s, (hexDigitValue c).isSome = true) ∧
      r = valueFrom 16 val (s.map fun c => (hexDigitValue c).getD 0) ∧ r ≤ 0xFFFF := by
  induction s generalizing val with
  | nil =>
      show some val = some r ↔ _ ∧ r = val ∧ r ≤ 0xFFFF
      rw [Option.some.injEq]
      constructor
      · rintro rfl
        exact ⟨fun c hc => absurd hc List.not_mem_nil, rfl, hval⟩
      · rintro ⟨-, rfl, -⟩
        rfl
  | cons c s ih =>
      rw [hexLoop, hexDigit_eq, List.map_cons, valueFrom_cons, List.forall_mem_cons]
      cases hexDigitValue c with
      | none => exact iff_of_false (fun h => by cases h) fun h => by cases h.1.1
      | some digit =>
          dsimp only [Option.getD_some]
          split_ifs with hlarge
          · apply iff_of_false
            · exact fun h => by cases h
            · rintro ⟨-, rfl, hle⟩
              have hgrow := le_valueFrom 16 (val * 16 + digit) (by decide)
                (s.map fun c => (hexDigitValue c).getD 0)
              omega
          · rw [ih (by omega), Option.isSome_some, eq_self, true_and]

theorem parseHex_iff (hne : g ≠ []) :
    ipv6ParseHex g = some v ↔ IsHexGroup g ∧ v = hexBytes g := by
  unfold ipv6ParseHex
  rw [Option.map_eq_some_iff]
  constructor
  · rintro ⟨r, hloop, rfl⟩
    obtain ⟨hdigits, rfl, hle⟩ := (hexLoop_iff (by decide)).mp hloop
    exact ⟨⟨hne, hdigits, hle⟩, rfl⟩
  · rintro ⟨hgroup, rfl⟩
    exact ⟨hexValue g, (hexLoop_iff (by decide)).mpr ⟨hgroup.digits, rfl, hgroup.le⟩, rfl⟩

/-! ## Dotted quads -/

/-- What the quad comes to, from the middle of it on. -/
def quadFrom (s : Bytes) (dots : Nat) (done : Bytes) (val : Nat) (seenChar : Bool) :
    Option Bytes :=
  match dotquadLoop s dots done val seenChar with
  | some (3, done, val, true) => some (done ++ [UInt8.ofNat val])
  | _ => none

/-- The digits of a field behind those that gave `val`. -/
def FieldRest (val : Nat) (seenChar : Bool) (f : Bytes) : Prop :=
  (∀ c ∈ f, vsfSysutilIsdigit c = true) ∧ (seenChar = true ∨ f ≠ []) ∧
    valueFrom 10 val (f.map digitValue) ≤ 255

theorem quadFrom_digit {c : UInt8} {dots val : Nat} {done : Bytes} {seenChar : Bool} (hc : c ≠ 46) :
    quadFrom (c :: s) dots done val seenChar =
      if vsfSysutilIsdigit c = true ∧ val * 10 + digitValue c ≤ 255 then
        quadFrom s dots done (val * 10 + digitValue c) true
      else none := by
  unfold quadFrom
  rw [dotquadLoop, if_neg hc]
  by_cases hdigit : vsfSysutilIsdigit c = true
  · rw [if_pos hdigit]
    by_cases hlarge : val * 10 + digitValue c > 255
    · rw [if_pos hlarge, if_neg fun h => Nat.not_le.mpr hlarge h.2]
    · rw [if_neg hlarge, if_pos ⟨hdigit, Nat.le_of_not_lt hlarge⟩]
  · rw [if_neg hdigit, if_neg fun h => hdigit h.1]

theorem fieldRest_cons {c : UInt8} {val : Nat} {seenChar : Bool} :
    FieldRest val seenChar (c :: f) ↔
      (vsfSysutilIsdigit c = true ∧ val * 10 + digitValue c ≤ 255) ∧
        FieldRest (val * 10 + digitValue c) true f := by
  unfold FieldRest
  rw [List.forall_mem_cons, List.map_cons, valueFrom_cons]
  have hgrow := le_valueFrom 10 (val * 10 + digitValue c) (by decide) (f.map digitValue)
  constructor
  · rintro ⟨⟨hdigit, hdigits⟩, -, hle⟩
    exact ⟨⟨hdigit, Nat.le_trans hgrow hle⟩, hdigits, .inl rfl, hle⟩
  · rintro ⟨⟨hdigit, -⟩, hdigits, -, hle⟩
    exact ⟨⟨hdigit, hdigits⟩, .inr (List.cons_ne_nil c f), hle⟩

theorem quadFrom_nil (dots : Nat) (done : Bytes) (val : Nat) (seenChar : Bool) :
    quadFrom [] dots done val seenChar =
      if dots = 3 ∧ seenChar = true then some (done ++ [UInt8.ofNat val]) else none := by
  unfold quadFrom dotquadLoop
  split
  · next heq =>
      injection heq with heq
      injection heq with hdots heq
      injection heq with hdone heq
      injection heq with hval hseen
      rw [if_pos ⟨hdots, hseen⟩, hdone, hval]
  · next hne =>
      rw [if_neg]
      rintro ⟨rfl, rfl⟩
      exact hne done val rfl

theorem quadFrom_dot (post : Bytes) (dots : Nat) (done : Bytes) (val : Nat) (seenChar : Bool) :
    quadFrom (46 :: post) dots done val seenChar =
      if dots ≠ 3 ∧ seenChar = true then
        quadFrom post (dots + 1) (done ++ [UInt8.ofNat val]) 0 false
      else none := by
  unfold quadFrom
  rw [dotquadLoop, if_pos rfl]
  by_cases hdots : dots = 3
  · rw [if_pos (.inr hdots), if_neg fun h => h.1 hdots]
  · cases seenChar with
    | true => rw [if_neg (by simpa using hdots), if_pos ⟨hdots, rfl⟩]
    | false => rw [if_pos (.inl rfl), if_neg fun h => Bool.noConfusion h.2]

/-- A field up to the end of the text or up to a dot. -/
theorem quadFrom_field {rest : Bytes} {dots val : Nat} {done : Bytes} {seenChar : Bool}
    (hval : val ≤ 255) (hf : 46 ∉ f) (hrest : rest = [] ∨ ∃ post, rest = 46 :: post) :
    quadFrom (f ++ rest) dots done val seenChar = some vals ↔
      FieldRest val seenChar f ∧
        quadFrom rest dots done (valueFrom 10 val (f.map digitValue)) true = some vals := by
  induction f generalizing val seenChar with
  | nil =>
      have hseen : FieldRest val seenChar [] ↔ seenChar = true := by
        unfold FieldRest
        simpa [valueFrom] using fun _ => hval
      rw [hseen, List.nil_append]
      cases seenChar with
      | true => exact (and_iff_right rfl).symm
      | false =>
          apply iff_of_false
          · rcases hrest with rfl | ⟨post, rfl⟩
            · rw [quadFrom_nil, if_neg fun h => Bool.noConfusion h.2]
              exact fun h => by cases h
            · rw [quadFrom_dot, if_neg fun h => Bool.noConfusion h.2]
              exact fun h => by cases h
          · exact fun h => Bool.noConfusion h.1
  | cons c f ih =>
      have hc : c ≠ 46 := fun h => hf (h ▸ List.mem_cons_self)
      have hf' : 46 ∉ f := fun h => hf (List.mem_cons_of_mem c h)
      rw [List.cons_append, quadFrom_digit hc, fieldRest_cons, List.map_cons, valueFrom_cons]
      split_ifs with hstep
      · rw [ih hstep.2 hf', and_iff_right hstep]
      · exact iff_of_false (fun h => by cases h) fun h => hstep h.1.1

theorem fieldRest_start : FieldRest 0 false f ↔ IsByteField f := by
  constructor
  · rintro ⟨hdigits, hne, hle⟩
    exact ⟨hne.resolve_left Bool.false_ne_true, hdigits, hle⟩
  · intro h
    exact ⟨h.digits, .inr h.nonempty, h.le⟩

theorem byteFields_cons {sep : UInt8} (hf : sep ∉ f) :
    ByteFields sep (n + 2) (f ++ sep :: s) vals ↔
      IsByteField f ∧ ∃ others, ByteFields sep (n + 1) s others ∧ vals = fieldByte f :: others := by
  unfold ByteFields
  rw [List.splitOn_append_cons_self_of_not_mem hf, List.forall_mem_cons, List.length_cons,
    List.map_cons]
  constructor
  · rintro ⟨hlen, ⟨hfield, hfields⟩, hvals⟩
    exact ⟨hfield, _, ⟨by omega, hfields, rfl⟩, hvals⟩
  · rintro ⟨hfield, others, ⟨hlen, hfields, rfl⟩, hvals⟩
    exact ⟨by omega, ⟨hfield, hfields⟩, hvals⟩

theorem byteFields_one {sep : UInt8} (hf : sep ∉ f) :
    ByteFields sep (n + 1) f vals ↔ n = 0 ∧ IsByteField f ∧ vals = [fieldByte f] := by
  unfold ByteFields
  rw [List.splitOn_eq_singleton hf, List.length_singleton, List.forall_mem_singleton]
  constructor
  · rintro ⟨hlen, h⟩
    exact ⟨by omega, h⟩
  · rintro ⟨hlen, h⟩
    exact ⟨by omega, h⟩

/-- With `n` dots to come. -/
theorem quadFrom_iff (n : Nat) (hn : n ≤ 3) (s done vals : Bytes) :
    quadFrom s (3 - n) done 0 false = some vals ↔
      ∃ others, ByteFields 46 (n + 1) s others ∧ vals = done ++ others := by
  by_cases hdot : 46 ∈ s
  · obtain ⟨f, post, rfl, hf⟩ := List.eq_append_cons_of_mem hdot
    rw [quadFrom_field (Nat.zero_le _) hf (.inr ⟨post, rfl⟩), fieldRest_start, quadFrom_dot]
    cases n with
    | zero =>
        rw [if_neg fun h => h.1 rfl]
        apply iff_of_false
        · exact fun h => by cases h.2
        · rintro ⟨others, ⟨hlen, -⟩, -⟩
          rw [List.splitOn_append_cons_self_of_not_mem hf, List.length_cons] at hlen
          exact List.splitOn_ne_nil 46 post (List.length_eq_zero_iff.mp (by omega))
    | succ n =>
        have hdots : 3 - (n + 1) + 1 = 3 - n := by omega
        rw [if_pos ⟨by omega, rfl⟩, hdots, quadFrom_iff n (by omega)]
        constructor
        · rintro ⟨hfield, others, hothers, rfl⟩
          refine ⟨fieldByte f :: others,
            (byteFields_cons hf).mpr ⟨hfield, others, hothers, rfl⟩, ?_⟩
          rw [List.append_assoc]
          rfl
        · rintro ⟨others, hothers, rfl⟩
          obtain ⟨hfield, others, hpost, rfl⟩ := (byteFields_cons hf).mp hothers
          refine ⟨hfield, others, hpost, ?_⟩
          rw [List.append_assoc]
          rfl
  · have hfield : quadFrom (s ++ []) (3 - n) done 0 false = some vals ↔ _ :=
      quadFrom_field (Nat.zero_le _) hdot (.inl rfl)
    rw [List.append_nil] at hfield
    rw [hfield, fieldRest_start, quadFrom_nil]
    simp only [byteFields_one hdot]
    constructor
    · rintro ⟨hbyte, h⟩
      split_ifs at h with hdots
      exact ⟨[fieldByte s], ⟨by omega, hbyte, rfl⟩, (Option.some.inj h).symm⟩
    · rintro ⟨others, ⟨rfl, hbyte, rfl⟩, rfl⟩
      exact ⟨hbyte, if_pos ⟨rfl, trivial⟩⟩

theorem parseDotquad_iff : ipv4ParseDotquad g = some v ↔ ByteFields 46 4 g v := by
  have hquad : quadFrom g (3 - 3) [] 0 false = some v ↔ _ :=
    quadFrom_iff 3 (Nat.le_refl 3) g [] v
  show quadFrom g 0 [] 0 false = some v ↔ _
  rw [hquad]
  simp

/-! ## Lists of groups -/

/-- A number in hexadecimal, or four in decimal. -/
def IsGroup (g v : Bytes) : Prop := IsHexGroup g ∧ v = hexBytes g ∨ ByteFields 46 4 g v

/-- Groups with colons between them; one may follow the last of them. -/
inductive Groups : Bytes → Bytes → Prop
  | nil : Groups [] []
  | last {g v : Bytes} (hg : IsGroup g v) : Groups g v
  | cons {g v s w : Bytes} (hg : IsGroup g v) (hs : Groups s w) : Groups (g ++ 58 :: s) (v ++ w)

theorem mem_intercalate {c sep : UInt8} {fields : List Bytes} (h : c ∈ [sep].intercalate fields) :
    c = sep ∨ ∃ f ∈ fields, c ∈ f := by
  induction fields with
  | nil => cases h
  | cons f fields ih =>
      by_cases hnil : fields = []
      · rw [hnil, List.intercalate_singleton] at h
        exact .inr ⟨f, List.mem_cons_self, h⟩
      · rw [List.intercalate_cons_of_ne_nil hnil, List.mem_append, List.mem_append,
          List.mem_singleton] at h
        rcases h with (hc | hc) | hc
        · exact .inr ⟨f, List.mem_cons_self, hc⟩
        · exact .inl hc
        · rcases ih hc with heq | ⟨g, hg, hmem⟩
          · exact .inl heq
          · exact .inr ⟨g, List.mem_cons_of_mem f hg, hmem⟩

theorem IsGroup.colon_not_mem (h : IsGroup g v) : 58 ∉ g := by
  rcases h with ⟨hhex, -⟩ | ⟨-, hfields, -⟩
  · intro hmem
    exact absurd (hhex.digits 58 hmem) (by decide)
  · intro hmem
    have hjoin : [46].intercalate (g.splitOn 46) = g := List.intercalate_splitOn 46
    rw [← hjoin] at hmem
    rcases mem_intercalate hmem with heq | ⟨f, hf, hc⟩
    · exact absurd heq (by decide)
    · exact absurd ((hfields f hf).digits 58 hc) (by decide)

theorem IsGroup.nonempty (h : IsGroup g v) : g ≠ [] ∧ v ≠ [] := by
  rcases h with ⟨hhex, rfl⟩ | ⟨hlen, -, rfl⟩
  · exact ⟨hhex.nonempty, List.cons_ne_nil _ _⟩
  · constructor
    · rintro rfl
      exact absurd hlen (by decide)
    · rw [ne_eq, List.map_eq_nil_iff, ← ne_eq, ← List.length_pos_iff]
      omega

theorem parseGroup_iff (hne : g ≠ []) :
    (if (strLocateChar g 46).isSome then ipv4ParseDotquad g else ipv6ParseHex g) = some v ↔
      IsGroup g v := by
  unfold IsGroup
  by_cases hdot : 46 ∈ g
  · rw [if_pos ((strLocateChar_isSome (by decide)).mpr hdot), parseDotquad_iff]
    refine (or_iff_right ?_).symm
    rintro ⟨hhex, -⟩
    exact absurd (hhex.digits 46 hdot) (by decide)
  · rw [if_neg fun h => hdot ((strLocateChar_isSome (by decide)).mp h), parseHex_iff hne]
    refine (or_iff_left ?_).symm
    rintro ⟨hlen, -⟩
    rw [List.splitOn_eq_singleton hdot] at hlen
    cases hlen

theorem groups_append {pre post : Bytes} (hpre : 58 ∉ pre) :
    Groups (pre ++ 58 :: post) v ↔ ∃ a b, IsGroup pre a ∧ Groups post b ∧ v = a ++ b := by
  constructor
  · intro h
    generalize hs : pre ++ 58 :: post = s at h
    cases h with
    | nil => simp at hs
    | last hg =>
        refine absurd ?_ hg.colon_not_mem
        rw [← hs]
        simp
    | @cons g a s b hg hrest =>
        have hsplit : strSplitChar (pre ++ 58 :: post) 58 = (pre, post) :=
          strSplitChar_append (by decide) hpre
        rw [hs, strSplitChar_append (by decide) hg.colon_not_mem] at hsplit
        obtain ⟨rfl, rfl⟩ := Prod.mk.inj hsplit
        exact ⟨a, b, hg, hrest, rfl⟩
  · rintro ⟨a, b, hg, hrest, rfl⟩
    exact .cons hg hrest

theorem groups_single (hs : 58 ∉ s) (hne : s ≠ []) : Groups s v ↔ IsGroup s v := by
  constructor
  · intro h
    cases h with
    | nil => exact absurd rfl hne
    | last hg => exact hg
    | cons hg hrest => simp at hs
  · exact .last

theorem groups_nil_iff : Groups [] v ↔ v = [] := by
  constructor
  · intro h
    generalize hs : ([] : Bytes) = s at h
    cases h with
    | nil => rfl
    | last hg => exact absurd hs.symm hg.nonempty.1
    | cons hg hrest => simp at hs
  · rintro rfl
    exact .nil

theorem Groups.eq_nil (h : Groups s v) (hv : v = []) : s = [] := by
  cases h with
  | nil => rfl
  | last hg => exact absurd hv hg.nonempty.2
  | cons hg hrest => exact absurd (List.append_eq_nil_iff.mp hv).1 hg.nonempty.2

theorem ipv6Groups_turn {first rest : Bytes} (hne : s ≠ [])
    (hsplit : strSplitChar s 58 = (first, rest)) :
    ipv6Groups (n + 1) s = some v ↔
      ∃ a b, IsGroup first a ∧ ipv6Groups n rest = some b ∧ v = a ++ b := by
  rw [ipv6Groups, if_neg (by simpa [strIsempty] using hne), hsplit]
  dsimp only
  by_cases hfirst : first = []
  · rw [if_pos (by rw [hfirst]; rfl)]
    apply iff_of_false
    · exact fun h => by cases h
    · rintro ⟨a, b, hg, -⟩
      exact hg.nonempty.1 hfirst
  · rw [if_neg (by simpa [strIsempty] using hfirst)]
    have hparsed := fun a => parseGroup_iff (v := a) hfirst
    generalize (if (strLocateChar first 46).isSome = true then ipv4ParseDotquad first
      else ipv6ParseHex first) = parsed at hparsed
    simp only [← hparsed]
    cases parsed with
    | none =>
        apply iff_of_false
        · exact fun h => by cases h
        · rintro ⟨a, b, h, -⟩
          cases h
    | some out =>
        dsimp only
        rw [Option.map_eq_some_iff]
        constructor
        · rintro ⟨b, hb, rfl⟩
          exact ⟨out, b, rfl, hb, rfl⟩
        · rintro ⟨a, b, ha, hb, rfl⟩
          exact ⟨b, hb, by rw [Option.some.inj ha]⟩

/-- Every round takes a group, and the colon behind it. -/
theorem ipv6Groups_iff (n : Nat) (hn : s.length < n) : ipv6Groups n s = some v ↔ Groups s v := by
  induction n generalizing s v with
  | zero => exact absurd hn (Nat.not_lt_zero _)
  | succ n ih =>
      by_cases hempty : s = []
      · rw [ipv6Groups, if_pos (by rw [hempty]; rfl), hempty, groups_nil_iff, Option.some.injEq,
          eq_comm]
      · by_cases hcolon : 58 ∈ s
        · obtain ⟨pre, post, rfl, hpre⟩ := List.eq_append_cons_of_mem hcolon
          rw [List.length_append, List.length_cons] at hn
          rw [ipv6Groups_turn hempty (strSplitChar_append (by decide) hpre), groups_append hpre]
          simp only [fun b => ih (s := post) (v := b) (by omega)]
        · rw [ipv6Groups_turn hempty (strSplitChar_of_not_mem hcolon), groups_single hcolon hempty]
          have hlen := List.length_pos_iff.mpr hempty
          simp only [fun b => ih (s := []) (v := b) (by rw [List.length_nil]; omega),
            groups_nil_iff]
          simp

theorem ipv6ParseMain_iff : ipv6ParseMain s = some v ↔ Groups s v :=
  ipv6Groups_iff (s.length + 1) (Nat.lt_succ_self _)

/-! ## Double colons -/

def doubleColon : Bytes := [58, 58]

theorem occurs_cons {c : UInt8} (h : Occurs doubleColon (c :: s)) :
    (c = 58 ∧ s.head? = some 58) ∨ Occurs doubleColon s := by
  obtain ⟨pre, post, heq⟩ := h
  cases pre with
  | nil =>
      obtain ⟨hc, hs⟩ := List.cons.inj heq
      rw [hs]
      exact .inl ⟨hc, rfl⟩
  | cons d pre => exact .inr ⟨pre, post, (List.cons.inj heq).2⟩

theorem occurs_append (hg : 58 ∉ g) (h : Occurs doubleColon (g ++ 58 :: s)) :
    s.head? = some 58 ∨ Occurs doubleColon s := by
  induction g with
  | nil =>
      rcases occurs_cons h with hhead | hrest
      · exact .inl hhead.2
      · exact .inr hrest
  | cons c g ih =>
      rcases occurs_cons h with hhead | hrest
      · exact absurd (hhead.1 ▸ List.mem_cons_self) hg
      · exact ih (fun hmem => hg (List.mem_cons_of_mem c hmem)) hrest

theorem occurs_mem (h : Occurs doubleColon s) : 58 ∈ s := by
  obtain ⟨pre, post, rfl⟩ := h
  simp [doubleColon]

theorem IsGroup.head (hg : IsGroup g v) (s : Bytes) : (g ++ s).head? ≠ some 58 := by
  obtain ⟨c, rest, rfl⟩ := List.exists_cons_of_ne_nil hg.nonempty.1
  intro h
  rw [List.cons_append, List.head?_cons] at h
  exact hg.colon_not_mem (Option.some.inj h ▸ List.mem_cons_self)

theorem Groups.head (h : Groups s v) : s.head? ≠ some 58 := by
  cases h with
  | nil => exact fun h => by cases h
  | last hg => exact List.append_nil s ▸ hg.head []
  | cons hg hrest => exact hg.head _

theorem Groups.not_occurs (h : Groups s v) : ¬ Occurs doubleColon s := by
  induction h with
  | nil => exact fun h => absurd (occurs_mem h) List.not_mem_nil
  | last hg => exact fun h => hg.colon_not_mem (occurs_mem h)
  | cons hg hrest ih =>
      intro h
      rcases occurs_append hg.colon_not_mem h with hhead | hoccurs
      · exact hrest.head hhead
      · exact ih hoccurs

/-- Without a colon at the end, the part in front is the one up to the double colon. -/
theorem firstAt_doubleColon {l : Bytes} (hno : ¬ Occurs doubleColon l)
    (hend : l.getLast? ≠ some 58) (r : Bytes) :
    FirstAt doubleColon (l ++ 58 :: 58 :: r) l r := by
  refine ⟨rfl, fun pre post heq => ?_⟩
  by_contra hlt
  rw [Nat.not_le] at hlt
  obtain ⟨mid, rfl⟩ : pre <+: l :=
    List.prefix_of_prefix_length_le ⟨_, heq.symm⟩ (List.prefix_append l _) (Nat.le_of_lt hlt)
  rw [List.append_assoc] at heq
  have hmid := List.append_cancel_left heq
  cases mid with
  | nil => simp at hlt
  | cons c mid =>
      obtain ⟨rfl, hrest⟩ := List.cons.inj hmid
      cases mid with
      | nil =>
          apply hend
          rw [List.getLast?_append]
          rfl
      | cons d mid =>
          obtain ⟨rfl, -⟩ := List.cons.inj hrest
          exact hno ⟨pre, mid, rfl⟩

theorem getLast_of_firstAt {pre post : Bytes} (h : FirstAt doubleColon s pre post) :
    pre.getLast? ≠ some 58 := by
  intro hlast
  obtain ⟨init, rfl⟩ := List.getLast?_eq_some_iff.mp hlast
  have hle := h.first init (58 :: post) (by rw [h.split, List.append_assoc]; rfl)
  rw [List.length_append] at hle
  simp at hle

/-! ## Text forms -/

/-- Groups of at most four digits with colons between them, and, with `tail`, maybe four
numbers of at most three digits with dots between them as the last one. -/
inductive Sequence (tail : Bool) : Bytes → Bytes → Prop
  | hex {g : Bytes} (hg : IsHexGroup g) (hlen : g.length ≤ 4) : Sequence tail g (hexBytes g)
  | quad {g v : Bytes} (htail : tail = true) (hg : ByteFields 46 4 g v)
      (hlen : ∀ f ∈ g.splitOn 46, f.length ≤ 3) : Sequence tail g v
  | cons {g s v : Bytes} (hg : IsHexGroup g) (hlen : g.length ≤ 4) (hs : Sequence tail s v) :
      Sequence tail (g ++ 58 :: s) (hexBytes g ++ v)

/-- One side of a double colon. -/
def Side (tail : Bool) (s v : Bytes) : Prop := s = [] ∧ v = [] ∨ Sequence tail s v

/-- Zeros between the bytes of the two sides. -/
def expand (a b : Bytes) : Bytes := a ++ List.replicate (16 - (a.length + b.length)) 0 ++ b

/-- The text forms of an address; a double colon stands for a group at least. -/
inductive IsIpv6Text : Bytes → Bytes → Prop
  | full {s v : Bytes} (hs : Sequence true s v) (hlen : v.length = 16) : IsIpv6Text s v
  | compressed {l r a b : Bytes} (hl : Side false l a) (hr : Side true r b)
      (hlen : a.length + b.length ≤ 14) : IsIpv6Text (l ++ 58 :: 58 :: r) (expand a b)

theorem Sequence.groups {tail : Bool} (h : Sequence tail s v) : Groups s v := by
  induction h with
  | hex hg hlen => exact .last (.inl ⟨hg, rfl⟩)
  | quad htail hg hlen => exact .last (.inr hg)
  | cons hg hlen hs ih => exact .cons (.inl ⟨hg, rfl⟩) ih

theorem Side.groups {tail : Bool} (h : Side tail s v) : Groups s v := by
  rcases h with ⟨rfl, rfl⟩ | h
  · exact .nil
  · exact h.groups

theorem IsGroup.getLast (hg : IsGroup g v) : g.getLast? ≠ some 58 :=
  fun h => hg.colon_not_mem (List.mem_of_getLast? h)

theorem Sequence.getLast {tail : Bool} (h : Sequence tail s v) :
    s ≠ [] ∧ s.getLast? ≠ some 58 := by
  induction h with
  | hex hg hlen => exact ⟨hg.nonempty, IsGroup.getLast (.inl ⟨hg, rfl⟩)⟩
  | quad htail hg hlen => exact ⟨(IsGroup.nonempty (.inr hg)).1, IsGroup.getLast (.inr hg)⟩
  | @cons g s v hg hlen hs ih =>
      obtain ⟨hne, hlast⟩ := ih
      obtain ⟨c, rest, rfl⟩ := List.exists_cons_of_ne_nil hne
      refine ⟨by simp, ?_⟩
      rwa [List.getLast?_append_of_ne_nil _ (List.cons_ne_nil _ _), List.getLast?_cons_cons]

theorem Side.getLast {tail : Bool} (h : Side tail s v) : s.getLast? ≠ some 58 := by
  rcases h with ⟨rfl, rfl⟩ | h
  · exact fun h => by cases h
  · exact h.getLast.2

/-! ## The parser -/

/-- Zeros are filled in only when there are groups behind the double colon. -/
def filled (a b : Bytes) : Bytes := if b.length > 0 then expand a b else a

theorem parseIpv6_of_groups {l r a b : Bytes} (hsplit : strSplitText s (bytes "::") = (l, r))
    (hl : Groups l a) (hr : Groups r b) :
    vsfSysutilParseIpv6 s =
      if a.length + b.length > 16 then .ok none
      else if h : (filled a b).length = 16 then .ok (some ⟨filled a b, h⟩) else .error () := by
  unfold vsfSysutilParseIpv6
  rw [hsplit]
  dsimp only
  rw [ipv6ParseMain_iff.mpr hl, ipv6ParseMain_iff.mpr hr]
  rfl

/-- Fewer groups than an address has, alone or in front of a double colon. -/
def Short (s : Bytes) : Prop :=
  ∃ l v, Groups l v ∧ v.length < 16 ∧
    (s = l ∨ l.getLast? ≠ some 58 ∧ s = l ++ [58, 58])

theorem length_expand {a b : Bytes} (h : a.length + b.length ≤ 16) : (expand a b).length = 16 := by
  unfold expand
  rw [List.length_append, List.length_append, List.length_replicate]
  omega

theorem parseIpv6_error_split {l r : Bytes} (hsplit : strSplitText s (bytes "::") = (l, r)) :
    vsfSysutilParseIpv6 s = .error () ↔ r = [] ∧ ∃ a, Groups l a ∧ a.length < 16 := by
  constructor
  · intro h
    cases hl : ipv6ParseMain l with
    | none =>
        unfold vsfSysutilParseIpv6 at h
        rw [hsplit] at h
        dsimp only at h
        rw [hl] at h
        cases h
    | some a =>
        cases hr : ipv6ParseMain r with
        | none =>
            unfold vsfSysutilParseIpv6 at h
            rw [hsplit] at h
            dsimp only at h
            rw [hl, hr] at h
            cases h
        | some b =>
            have hga := ipv6ParseMain_iff.mp hl
            have hgb := ipv6ParseMain_iff.mp hr
            rw [parseIpv6_of_groups hsplit hga hgb] at h
            unfold filled at h
            split_ifs at h with hlong hb hlen hlen
            · rw [length_expand (by omega)] at hlen
              exact absurd rfl hlen
            · have hnil : b = [] := List.length_eq_zero_iff.mp (by omega)
              exact ⟨hgb.eq_nil hnil, a, hga, by omega⟩
  · rintro ⟨rfl, a, hga, hlen⟩
    have hfilled : filled a [] = a := if_neg (Nat.lt_irrefl 0)
    rw [parseIpv6_of_groups hsplit hga .nil, if_neg (by rw [List.length_nil]; omega),
      dif_neg (by rw [hfilled]; omega)]

theorem bytes_doubleColon : bytes "::" = doubleColon := by decide

theorem parseIpv6_error_iff : vsfSysutilParseIpv6 s = .error () ↔ Short s := by
  have hne : bytes "::" ≠ [] := by decide
  rcases splitText_cases s hne with ⟨hno, hsplit⟩ | ⟨pre, post, hfirst, hsplit⟩
  · rw [parseIpv6_error_split hsplit, and_iff_right rfl]
    rw [bytes_doubleColon] at hno
    constructor
    · rintro ⟨a, hga, hlen⟩
      exact ⟨s, a, hga, hlen, .inl rfl⟩
    · rintro ⟨l, a, hga, hlen, rfl | ⟨-, rfl⟩⟩
      · exact ⟨a, hga, hlen⟩
      · exact absurd ⟨l, [], rfl⟩ hno
  · rw [parseIpv6_error_split hsplit]
    rw [bytes_doubleColon] at hfirst
    constructor
    · rintro ⟨rfl, a, hga, hlen⟩
      exact ⟨pre, a, hga, hlen, .inr ⟨getLast_of_firstAt hfirst, hfirst.split⟩⟩
    · rintro ⟨l, a, hga, hlen, rfl | ⟨hlast, rfl⟩⟩
      · exact absurd hfirst.occurs hga.not_occurs
      · obtain ⟨rfl, rfl⟩ := hfirst.unique (firstAt_doubleColon hga.not_occurs hlast [])
        exact ⟨rfl, a, hga, hlen⟩

theorem parseIpv6_full (hs : Groups s v) (hlen : v.length = 16) :
    vsfSysutilParseIpv6 s = .ok (some ⟨v, hlen⟩) := by
  have hsplit : strSplitText s (bytes "::") = (s, []) := by
    apply splitText_missing (by decide)
    rw [bytes_doubleColon]
    exact hs.not_occurs
  have hfilled : filled v [] = v := if_neg (Nat.lt_irrefl 0)
  rw [parseIpv6_of_groups hsplit hs .nil, if_neg (by rw [List.length_nil]; omega),
    dif_pos (by rw [hfilled, hlen])]
  simp only [hfilled]

theorem parseIpv6_compressed {l r a b : Bytes} (hl : Groups l a) (hlast : l.getLast? ≠ some 58)
    (hr : Groups r b) (hb : b ≠ []) (hlen : a.length + b.length ≤ 16) :
    vsfSysutilParseIpv6 (l ++ 58 :: 58 :: r) = .ok (some ⟨expand a b, length_expand hlen⟩) := by
  have hsplit : strSplitText (l ++ 58 :: 58 :: r) (bytes "::") = (l, r) := by
    apply splitText_found (by decide)
    rw [bytes_doubleColon]
    exact firstAt_doubleColon hl.not_occurs hlast r
  have hfilled : filled a b = expand a b := if_pos (List.length_pos_iff.mpr hb)
  rw [parseIpv6_of_groups hsplit hl hr, if_neg (by omega),
    dif_pos (by rw [hfilled, length_expand hlen])]
  simp only [hfilled]

/-- The texts of addresses give their bytes, and every text gives an answer, unless the
groups are too few. -/
theorem parseIpv6_right_iff (s : Bytes) :
    ((∀ addr : In6Addr, IsIpv6Text s addr.1 → vsfSysutilParseIpv6 s = .ok (some addr)) ∧
      ∃ ret, vsfSysutilParseIpv6 s = .ok ret) ↔ ¬ Short s := by
  constructor
  · rintro ⟨-, ret, hret⟩ hshort
    rw [parseIpv6_error_iff.mpr hshort] at hret
    cases hret
  · intro hnot
    constructor
    · rintro ⟨v, hv⟩ hform
      cases hform with
      | full hs hlen => exact parseIpv6_full hs.groups hlen
      | @compressed l r a b hl hr hlen =>
          rcases hr with ⟨rfl, rfl⟩ | hr
          · rw [List.length_nil] at hlen
            exact absurd ⟨l, a, hl.groups, by omega, .inr ⟨hl.getLast, rfl⟩⟩ hnot
          · have hb : b ≠ [] := fun hnil => hr.getLast.1 (hr.groups.eq_nil hnil)
            exact parseIpv6_compressed hl.groups hl.getLast hr.groups hb (by omega)
    · cases hret : vsfSysutilParseIpv6 s with
      | ok ret => exact ⟨ret, rfl⟩
      | error e => exact absurd (parseIpv6_error_iff.mp hret) hnot

/-- The address of all zeros. -/
theorem parseIpv6_any :
    IsIpv6Text (bytes "::") (List.replicate 16 0) ∧
      vsfSysutilParseIpv6 (bytes "::") = .error () :=
  ⟨.compressed (.inl ⟨rfl, rfl⟩) (.inl ⟨rfl, rfl⟩) (by decide), by decide +kernel⟩

end Vsftpd
