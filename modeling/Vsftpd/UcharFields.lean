import Vsftpd.Decimal
import Vsftpd.IpAddrParse

/-!
# Bytes in decimal

What `vsf_sysutil_parse_uchar_string_sep` makes of the fields between the separators of
a text.  It reads them with `atoi`, and takes a separator behind the last of them.
-/

namespace Vsftpd

open Vsftpd.Lib.Numerals

variable {f s vals : Bytes} {sep : UInt8} {n : Nat} {fields : List Bytes}

/-- A number from 0 to 255, in decimal. -/
structure IsByteField (f : Bytes) : Prop where
  nonempty : f ≠ []
  digits : ∀ c ∈ f, vsfSysutilIsdigit c = true
  le : value 10 (f.map digitValue) ≤ 255

def fieldByte (f : Bytes) : UInt8 := UInt8.ofNat (value 10 (f.map digitValue))

/-- There are `n` fields, with one separator between two of them, and they are numbers. -/
def ByteFields (sep : UInt8) (n : Nat) (s vals : Bytes) : Prop :=
  (s.splitOn sep).length = n ∧ (∀ f ∈ s.splitOn sep, IsByteField f) ∧
    vals = (s.splitOn sep).map fieldByte

/-- The check on what `atoi` returns. -/
def AtoiInByte (f : Bytes) : Prop := 0 ≤ strAtoi f ∧ strAtoi f ≤ 255

instance : DecidablePred AtoiInByte := fun _ => inferInstanceAs (Decidable (_ ∧ _))

def atoiByte (f : Bytes) : UInt8 := UInt8.ofNat (strAtoi f).toNat

theorem IsByteField.atoi (h : IsByteField f) : strAtoi f = value 10 (f.map digitValue) := by
  have hle := h.le
  unfold strAtoi
  rw [atoi_digits h.digits, min_eq_left (by omega)]
  exact toInt32_of_lt (by omega) (by omega)

theorem IsByteField.inByte (h : IsByteField f) : AtoiInByte f := by
  have hle := h.le
  unfold AtoiInByte
  rw [h.atoi]
  omega

theorem IsByteField.atoiByte (h : IsByteField f) : atoiByte f = fieldByte f := by
  unfold Vsftpd.atoiByte fieldByte
  rw [h.atoi, Int.toNat_natCast]

/-! ## The fields that are read -/

/-- The fields of the text; a null character separates nothing. -/
def cuts (sep : UInt8) (s : Bytes) : List Bytes := if sep = 0 then [s] else s.splitOn sep

/-- There are `n` fields, of which the last has text, or an empty one follows them. -/
def Shape (n : Nat) (fields : List Bytes) : Prop :=
  fields.length = n ∧ (n = 1 ∨ fields.getLast? ≠ some []) ∨
    fields.length = n + 1 ∧ fields.getLast? = some []

theorem cuts_of_not_mem (h : sep ∉ s) : cuts sep s = [s] := by
  unfold cuts
  rw [List.splitOn_eq_singleton h, ite_self]

theorem cuts_append {pre post : Bytes} (hsep : sep ≠ 0) (h : sep ∉ pre) :
    cuts sep (pre ++ sep :: post) = pre :: cuts sep post := by
  unfold cuts
  rw [if_neg hsep, if_neg hsep, List.splitOn_append_cons_self_of_not_mem h]

theorem cuts_ne_nil (sep : UInt8) (s : Bytes) : cuts sep s ≠ [] := by
  unfold cuts
  split_ifs
  · exact List.cons_ne_nil s []
  · exact List.splitOn_ne_nil sep s

theorem cuts_eq_nil_iff (sep : UInt8) (s : Bytes) : cuts sep s = [[]] ↔ s = [] := by
  unfold cuts
  split_ifs
  · simp
  · constructor
    · intro h
      have hjoin : [sep].intercalate (s.splitOn sep) = s := List.intercalate_splitOn sep
      rw [← hjoin, h]
      rfl
    · rintro rfl
      exact List.splitOn_nil sep

theorem splitChar_cuts (sep : UInt8) (s : Bytes) :
    (strSplitChar s sep = (s, []) ∧ cuts sep s = [s]) ∨
      ∃ pre post, strSplitChar s sep = (pre, post) ∧ cuts sep s = pre :: cuts sep post := by
  by_cases hsep : sep = 0
  · left
    rw [hsep]
    exact ⟨strSplitChar_null s, if_pos rfl⟩
  · by_cases hmem : sep ∈ s
    · right
      obtain ⟨pre, post, rfl, hpre⟩ := List.eq_append_cons_of_mem hmem
      exact ⟨pre, post, strSplitChar_append hsep hpre, cuts_append hsep hpre⟩
    · left
      exact ⟨strSplitChar_of_not_mem hmem, cuts_of_not_mem hmem⟩

theorem ucharFields_turn {field rest : Bytes} (hsplit : strSplitChar s sep = (field, rest)) :
    ucharFields sep (n + 1) s = some vals ↔ (n = 0 ↔ rest = []) ∧ AtoiInByte field ∧
      ∃ others, ucharFields sep n rest = some others ∧ vals = atoiByte field :: others := by
  have hcheck : (n ≠ 0 ∧ strIsempty rest = true ∨ n = 0 ∧ ¬ strIsempty rest = true) ↔
      ¬ (n = 0 ↔ rest = []) := by
    unfold strIsempty
    rw [List.isEmpty_iff]
    tauto
  have hrange : strAtoi field < 0 ∨ strAtoi field > 255 ↔ ¬ AtoiInByte field := by
    unfold AtoiInByte
    omega
  rw [ucharFields, hsplit]
  dsimp only
  rw [if_congr hcheck rfl rfl, if_congr hrange rfl rfl]
  by_cases hshape : n = 0 ↔ rest = []
  · by_cases hfield : AtoiInByte field
    · rw [if_neg (not_not.mpr hshape), if_neg (not_not.mpr hfield), Option.map_eq_some_iff,
        and_iff_right hshape, and_iff_right hfield]
      simp only [eq_comm (a := vals)]
      rfl
    · rw [if_neg (not_not.mpr hshape), if_pos hfield]
      exact iff_of_false (fun h => by cases h) fun h => hfield h.2.1
  · rw [if_pos hshape]
    exact iff_of_false (fun h => by cases h) fun h => hshape h.1

theorem not_shape_singleton (f : Bytes) : ¬ Shape (n + 2) [f] := by
  rintro (⟨hlen, -⟩ | ⟨hlen, -⟩)
  · rw [List.length_singleton] at hlen
    omega
  · rw [List.length_singleton] at hlen
    omega

theorem shape_one_cons (hne : fields ≠ []) : Shape 1 (f :: fields) ↔ fields = [[]] := by
  obtain ⟨g, rest, rfl⟩ := List.exists_cons_of_ne_nil hne
  unfold Shape
  cases rest with
  | nil => simp
  | cons h rest => simp

theorem shape_cons (hne : fields ≠ []) (hlast : fields ≠ [[]]) :
    Shape (n + 2) (f :: fields) ↔ Shape (n + 1) fields := by
  obtain ⟨g, rest, rfl⟩ := List.exists_cons_of_ne_nil hne
  have hone : n = 0 → (g :: rest).length = n + 1 → (g :: rest).getLast? ≠ some [] := by
    intro hn hlen
    obtain rfl : rest = [] := List.length_eq_zero_iff.mp (by simpa [hn] using hlen)
    simpa using hlast
  unfold Shape
  rw [List.getLast?_cons_cons, List.length_cons]
  constructor
  · rintro (⟨hlen, h⟩ | ⟨hlen, h⟩)
    · exact .inl ⟨by omega, .inr (h.resolve_left (by omega))⟩
    · exact .inr ⟨by omega, h⟩
  · rintro (⟨hlen, h⟩ | ⟨hlen, h⟩)
    · refine .inl ⟨by omega, .inr ?_⟩
      rcases h with hn | h
      · exact hone (by omega) hlen
      · exact h
    · exact .inr ⟨by omega, h⟩

theorem not_shape_trailing (f : Bytes) : ¬ Shape (n + 2) [f, []] := by
  rintro (⟨hlen, h⟩ | ⟨hlen, -⟩)
  · rcases h with h | h
    · omega
    · exact h rfl
  · simp at hlen

/-- The text is taken when its fields have the shape, and `atoi` finds bytes in them. -/
theorem ucharFields_iff (n : Nat) (s vals : Bytes) :
    ucharFields sep (n + 1) s = some vals ↔ Shape (n + 1) (cuts sep s) ∧
      (∀ f ∈ (cuts sep s).take (n + 1), AtoiInByte f) ∧
        vals = ((cuts sep s).take (n + 1)).map atoiByte := by
  induction n generalizing s vals with
  | zero =>
      rcases splitChar_cuts sep s with ⟨hsplit, hcuts⟩ | ⟨pre, post, hsplit, hcuts⟩
      · rw [ucharFields_turn hsplit, hcuts]
        simp [Shape, ucharFields]
      · have hne := cuts_ne_nil sep post
        rw [ucharFields_turn hsplit, hcuts, Nat.zero_add, shape_one_cons hne, cuts_eq_nil_iff]
        simp [ucharFields]
  | succ n ih =>
      rcases splitChar_cuts sep s with ⟨hsplit, hcuts⟩ | ⟨pre, post, hsplit, hcuts⟩
      · rw [ucharFields_turn hsplit, hcuts]
        exact iff_of_false (fun h => Nat.succ_ne_zero n (h.1.mpr rfl)) fun h =>
          not_shape_singleton s h.1
      · by_cases hpost : post = []
        · rw [ucharFields_turn hsplit, hcuts, hpost, cuts_of_not_mem List.not_mem_nil]
          exact iff_of_false (fun h => Nat.succ_ne_zero n (h.1.mpr rfl)) fun h =>
            not_shape_trailing pre h.1
        · have hlast : cuts sep post ≠ [[]] := fun h => hpost ((cuts_eq_nil_iff sep post).mp h)
          rw [ucharFields_turn hsplit, hcuts, shape_cons (cuts_ne_nil sep post) hlast,
            and_iff_right (iff_of_false (Nat.succ_ne_zero n) hpost)]
          simp only [ih, List.take_succ_cons, List.forall_mem_cons, List.map_cons]
          constructor
          · rintro ⟨hfield, others, ⟨hshape, hothers, rfl⟩, hvals⟩
            exact ⟨hshape, ⟨hfield, hothers⟩, hvals⟩
          · rintro ⟨hshape, ⟨hfield, hothers⟩, hvals⟩
            exact ⟨hfield, _, ⟨hshape, hothers, rfl⟩, hvals⟩

/-! ## The texts that are taken -/

/-- The fields are read though they are not the numbers, or a separator follows them; or the
text has several fields between null characters. -/
def Slips (sep : UInt8) (n : Nat) (s : Bytes) : Prop :=
  (Shape n (cuts sep s) ∧ (∀ f ∈ (cuts sep s).take n, AtoiInByte f) ∧
      ((cuts sep s).length = n + 1 ∨ ∃ f ∈ cuts sep s, ¬ IsByteField f)) ∨
    sep = 0 ∧ n ≠ 1 ∧ (s.splitOn 0).length = n ∧ ∀ f ∈ s.splitOn 0, IsByteField f

theorem IsByteField.null_not_mem (h : IsByteField f) : 0 ∉ f := by
  intro hmem
  exact absurd (h.digits 0 hmem) (by decide)

theorem splitOn_of_length_one (h : (s.splitOn sep).length = 1) : s.splitOn sep = [s] := by
  obtain ⟨f, hf⟩ := List.length_eq_one_iff.mp h
  have hjoin : [sep].intercalate (s.splitOn sep) = s := List.intercalate_splitOn sep
  rw [hf, List.intercalate_singleton] at hjoin
  rw [hf, hjoin]

theorem cuts_of_fields (h : ∀ f ∈ cuts sep s, IsByteField f) : cuts sep s = s.splitOn sep := by
  by_cases hsep : sep = 0
  · rw [cuts, if_pos hsep] at h ⊢
    rw [List.splitOn_eq_singleton]
    rw [hsep]
    exact (h s List.mem_cons_self).null_not_mem
  · rw [cuts, if_neg hsep]

theorem cuts_of_splitOn (h : sep ≠ 0 ∨ (s.splitOn sep).length = 1) :
    cuts sep s = s.splitOn sep := by
  rcases h with hsep | hlen
  · rw [cuts, if_neg hsep]
  · rw [cuts, splitOn_of_length_one hlen, ite_self]

theorem shape_of_fields (h : ∀ f ∈ fields, IsByteField f) : Shape fields.length fields := by
  refine .inl ⟨rfl, .inr fun hlast => ?_⟩
  exact (h [] (List.mem_of_getLast? hlast)).nonempty rfl

theorem map_atoiByte (h : ∀ f ∈ fields, IsByteField f) :
    fields.map atoiByte = fields.map fieldByte :=
  List.map_congr_left fun f hf => (h f hf).atoiByte

theorem ucharFields_of_fields (hcuts : cuts sep s = s.splitOn sep) (h : ByteFields sep n s vals) :
    ucharFields sep n s = some vals := by
  obtain ⟨hlen, hfields, hvals⟩ := h
  obtain ⟨n, rfl⟩ : ∃ k, n = k + 1 := by
    have hpos := List.length_pos_iff.mpr (List.splitOn_ne_nil sep s)
    exact ⟨n - 1, by omega⟩
  rw [ucharFields_iff, hcuts, List.take_of_length_le (Nat.le_of_eq hlen), map_atoiByte hfields]
  refine ⟨?_, fun f hf => (hfields f hf).inByte, hvals⟩
  rw [← hlen]
  exact shape_of_fields hfields

theorem shape_singleton (h : Shape (n + 1) [s]) : n = 0 := by
  cases n with
  | zero => rfl
  | succ n => exact absurd h (not_shape_singleton s)

/-- The text is taken for what it is unless it is one of those. -/
theorem parseUcharStringSep_iff (s : Bytes) (sep : UInt8) (n : Nat) :
    (∀ vals, vsfSysutilParseUcharStringSep s sep (n + 1) = some vals ↔
        ByteFields sep (n + 1) s vals) ↔ ¬ Slips sep (n + 1) s := by
  unfold vsfSysutilParseUcharStringSep
  constructor
  · rintro h (⟨hshape, hbytes, hslip⟩ | ⟨rfl, hn, hlen, hfields⟩)
    · obtain ⟨hlen, hfields, -⟩ :=
        (h _).mp ((ucharFields_iff n s _).mpr ⟨hshape, hbytes, rfl⟩)
      have hcuts : cuts sep s = s.splitOn sep := by
        apply cuts_of_splitOn
        by_cases hsep : sep = 0
        · rw [cuts, if_pos hsep] at hshape
          exact .inr (by rw [hlen, shape_singleton hshape])
        · exact .inl hsep
      rw [hcuts] at hslip
      rcases hslip with hlong | ⟨f, hf, hfield⟩
      · omega
      · exact hfield (hfields f hf)
    · have htaken := (h _).mpr ⟨hlen, hfields, rfl⟩
      have hshape := ((ucharFields_iff n s _).mp htaken).1
      rw [cuts, if_pos rfl] at hshape
      exact hn (by rw [shape_singleton hshape])
  · intro hslips vals
    unfold Slips at hslips
    push Not at hslips
    constructor
    · intro htaken
      obtain ⟨hshape, hbytes, hvals⟩ := (ucharFields_iff n s vals).mp htaken
      obtain ⟨hlen, hfields⟩ := hslips.1 hshape hbytes
      have hexact : (cuts sep s).length = n + 1 := by
        rcases hshape with hshape | hshape
        · exact hshape.1
        · exact absurd hshape.1 hlen
      rw [List.take_of_length_le (Nat.le_of_eq hexact), map_atoiByte hfields] at hvals
      rw [cuts_of_fields hfields] at hexact hvals hfields
      exact ⟨hexact, hfields, hvals⟩
    · intro h
      apply ucharFields_of_fields _ h
      apply cuts_of_splitOn
      by_cases hn : n + 1 = 1
      · exact .inr (by rw [h.1, hn])
      · refine .inl fun hsep => ?_
        obtain ⟨hlen, hfields, -⟩ := h
        rw [hsep] at hlen hfields
        obtain ⟨f, hf, hbad⟩ := hslips.2 hsep hn hlen
        exact hbad (hfields f hf)

/-! ## Numbers that are printed -/

def numbersText (sep : UInt8) (vals : Bytes) : Bytes :=
  [sep].intercalate (vals.map fun b => vsfSysutilUlongToStr b.toNat)

theorem isByteField_ulongToStr (b : UInt8) : IsByteField (vsfSysutilUlongToStr b.toNat) where
  nonempty := ulongToStr_ne_nil b.toNat
  digits := fun _ hc => isDigit_of_mem_ulongToStr hc
  le := by
    rw [value_ulongToStr]
    exact Nat.le_of_lt_succ b.toNat_lt

theorem byteFields_numbersText (hsep : vsfSysutilIsdigit sep = false) (hne : vals ≠ []) :
    ByteFields sep vals.length (numbersText sep vals) vals := by
  have hfields : (numbersText sep vals).splitOn sep =
      vals.map fun b => vsfSysutilUlongToStr b.toNat := by
    apply List.splitOn_intercalate
    · intro f hf hmem
      obtain ⟨b, -, rfl⟩ := List.mem_map.mp hf
      rw [isDigit_of_mem_ulongToStr hmem] at hsep
      cases hsep
    · rwa [ne_eq, List.map_eq_nil_iff]
  unfold ByteFields
  rw [hfields]
  refine ⟨List.length_map _, ?_, ?_⟩
  · intro f hf
    obtain ⟨b, -, rfl⟩ := List.mem_map.mp hf
    exact isByteField_ulongToStr b
  · rw [List.map_map]
    symm
    apply List.map_id''
    intro b
    show UInt8.ofNat (value 10 ((vsfSysutilUlongToStr b.toNat).map digitValue)) = b
    rw [value_ulongToStr, UInt8.ofNat_toNat]

/-- Bytes that are printed are read back. -/
theorem parse_numbersText (hsep : vsfSysutilIsdigit sep = false) (hnull : sep ≠ 0)
    (hne : vals ≠ []) :
    vsfSysutilParseUcharStringSep (numbersText sep vals) sep vals.length = some vals :=
  ucharFields_of_fields (cuts_of_splitOn (.inl hnull)) (byteFields_numbersText hsep hne)

theorem numbersText_cons {b : UInt8} (hne : vals ≠ []) :
    numbersText sep (b :: vals) =
      vsfSysutilUlongToStr b.toNat ++ (sep :: numbersText sep vals) := by
  unfold numbersText
  rw [List.map_cons, List.intercalate_cons_of_ne_nil (by simpa using hne), List.append_assoc]
  rfl

theorem mem_numbersText {c : UInt8} (h : c ∈ numbersText sep vals) :
    vsfSysutilIsdigit c = true ∨ c = sep := by
  induction vals with
  | nil => cases h
  | cons b vals ih =>
      by_cases hnil : vals = []
      · simp only [hnil, numbersText, List.map_cons, List.map_nil,
          List.intercalate_singleton] at h
        exact .inl (isDigit_of_mem_ulongToStr h)
      · rw [numbersText_cons hnil, List.mem_append, List.mem_cons] at h
        rcases h with h | h | h
        · exact .inl (isDigit_of_mem_ulongToStr h)
        · exact .inr h
        · exact ih h

theorem numbersText_concat (sep b : UInt8) (hne : vals ≠ []) :
    numbersText sep (vals ++ [b]) =
      numbersText sep vals ++ (sep :: vsfSysutilUlongToStr b.toNat) := by
  induction vals with
  | nil => exact absurd rfl hne
  | cons a vals ih =>
      by_cases hnil : vals = []
      · rw [hnil, List.singleton_append, numbersText_cons (List.cons_ne_nil b [])]
        simp [numbersText]
      · rw [List.cons_append, numbersText_cons (by simp), ih hnil, numbersText_cons hnil]
        simp

theorem strReplaceChar_of_not_mem {old : UInt8} (h : old ∉ s) (new : UInt8) :
    strReplaceChar s old new = s := by
  have hsame : ∀ c ∈ s, (if c = old then new else c) = c := by
    intro c hc
    apply if_neg
    rintro rfl
    exact h hc
  unfold strReplaceChar
  rw [List.map_congr_left hsame, List.map_id']

theorem strReplaceChar_numbersText {old : UInt8} (hold : vsfSysutilIsdigit old = false)
    (new : UInt8) (vals : Bytes) :
    strReplaceChar (numbersText old vals) old new = numbersText new vals := by
  have hdigits : ∀ n, strReplaceChar (vsfSysutilUlongToStr n) old new = vsfSysutilUlongToStr n := by
    intro n
    apply strReplaceChar_of_not_mem
    intro hmem
    rw [isDigit_of_mem_ulongToStr hmem] at hold
    cases hold
  have happend : ∀ s t : Bytes, strReplaceChar (s ++ (old :: t)) old new =
      strReplaceChar s old new ++ (new :: strReplaceChar t old new) := by
    intro s t
    simp [strReplaceChar]
  induction vals with
  | nil => rfl
  | cons b vals ih =>
      by_cases hnil : vals = []
      · simp only [hnil, numbersText, List.map_cons, List.map_nil, List.intercalate_singleton]
        exact hdigits b.toNat
      · rw [numbersText_cons hnil, numbersText_cons hnil, happend, hdigits, ih]

/-- A separator behind the sixth field of `PORT`. -/
theorem parseUcharStringSep_trailing :
    vsfSysutilParseUcharStringSep (bytes "1,2,3,4,5,6,") 44 6 = some [1, 2, 3, 4, 5, 6] ∧
      ¬ ByteFields 44 6 (bytes "1,2,3,4,5,6,") [1, 2, 3, 4, 5, 6] := by
  constructor
  · decide +kernel
  · rintro ⟨hlen, -⟩
    exact absurd hlen (by decide +kernel)

end Vsftpd
