import Vsftpd.Session.Guarantees
import Vsftpd.Decimal

/-!
# Dates of MDTM

The time that a date of digits stands for, next to what `handle_mdtm` makes of it:
each field is copied without its last digit.
-/

namespace Vsftpd.Session

open Vsftpd.Lib Vsftpd.Lib.Numerals

variable {W : Type} {s : Bytes}

/-- The decimal number in `n` characters from `i` on. -/
def decimalField (s : Bytes) (i n : Nat) : Nat := value 10 (((s.drop i).take n).map digitValue)

/-- YYYYMMDD, and hhmmss when they are there. -/
def dateFields (s : Bytes) : Tm :=
  let date : Tm :=
    { year := decimalField s 0 4 - 1900
      mon := decimalField s 4 2 - 1
      mday := decimalField s 6 2 }
  if 14 ≤ s.length then
    { date with
      hour := decimalField s 8 2
      min := decimalField s 10 2
      sec := decimalField s 12 2 }
  else date

/-! ## What is copied -/

/-- A field of `n` characters, as it comes out of the copy. -/
theorem copied_field (h : ∀ c ∈ s, vsfSysutilIsdigit c = true) (i n : Nat) (hn : n ≤ 4) :
    vsfSysutilAtoi (vsfSysutilStrcpy (s.drop i) n) = decimalField s i (n - 1) := by
  have hcopied : ∀ c ∈ (s.drop i).take (n - 1), vsfSysutilIsdigit c = true := fun c hc =>
    h c (List.mem_of_mem_drop (List.mem_of_mem_take hc))
  have hlen : ((s.drop i).take (n - 1)).length ≤ 9 := by
    rw [List.length_take]
    omega
  rw [vsfSysutilStrcpy, cString_digits hcopied, atoi_short hcopied hlen]
  rfl

/-- The last digit of a field is lost. -/
theorem copied_field_eq_iff (h : ∀ c ∈ s, vsfSysutilIsdigit c = true) (i n : Nat)
    (hn : i + n ≤ s.length) :
    decimalField s i (n - 1) = decimalField s i n ↔ ∀ c ∈ (s.drop i).take n, c = 48 := by
  have hlen : ((s.drop i).take n).length = n := by
    rw [List.length_take, List.length_drop]
    omega
  have hdropped : (s.drop i).take (n - 1) = ((s.drop i).take n).dropLast := by
    rw [List.dropLast_eq_take, hlen, List.take_take, Nat.min_eq_left (Nat.sub_le n 1)]
  unfold decimalField
  rw [hdropped, List.map_dropLast, value_dropLast_eq_iff (by decide)]
  simp only [List.forall_mem_map]
  refine forall₂_congr fun c hc => digitValue_eq_zero (h c ?_)
  exact List.mem_of_mem_drop (List.mem_of_mem_take hc)

/-! ## The parser -/

theorem parseTime_digits (h : ∀ c ∈ s, vsfSysutilIsdigit c = true) (hlen : 14 ≤ s.length)
    (hfits : s.length ≤ intMax / 8) :
    vsfSysutilParseTime s =
      .ok { year := decimalField s 0 3 - 1900
            mon := decimalField s 4 1 - 1
            mday := decimalField s 6 1
            hour := decimalField s 8 1
            min := decimalField s 10 1
            sec := decimalField s 12 1 } := by
  have hyear := copied_field h 0 4 (by decide)
  rw [List.drop_zero] at hyear
  unfold vsfSysutilParseTime
  rw [strlen_eq (by rwa [cString_digits h]), ok_bind, cString_digits h]
  dsimp only
  rw [if_pos hlen, if_pos (by omega), hyear, copied_field h 4 2 (by decide),
    copied_field h 6 2 (by decide), copied_field h 8 2 (by decide), copied_field h 10 2 (by decide),
    copied_field h 12 2 (by decide)]
  rfl

theorem parseTime_long (h : ∀ c ∈ s, vsfSysutilIsdigit c = true)
    (hlong : intMax / 8 < s.length) :
    vsfSysutilParseTime s = .error "string suspiciously long" := by
  unfold vsfSysutilParseTime
  rw [strlen_long (by rwa [cString_digits h]), error_bind]

theorem forall_take_fields {P : UInt8 → Prop} (s : Bytes) :
    (∀ c ∈ s.take 14, P c) ↔
      (∀ c ∈ (s.drop 0).take 4, P c) ∧ (∀ c ∈ (s.drop 4).take 2, P c) ∧
        (∀ c ∈ (s.drop 6).take 2, P c) ∧ (∀ c ∈ (s.drop 8).take 2, P c) ∧
        (∀ c ∈ (s.drop 10).take 2, P c) ∧ ∀ c ∈ (s.drop 12).take 2, P c := by
  have hsplit : s.take 14 = (s.drop 0).take 4 ++ ((s.drop 4).take 2 ++ ((s.drop 6).take 2 ++
      ((s.drop 8).take 2 ++ ((s.drop 10).take 2 ++ (s.drop 12).take 2)))) := by
    rw [show 14 = 4 + (2 + (2 + (2 + (2 + 2)))) from rfl]
    simp only [List.take_add, List.drop_drop, List.drop_zero]
  rw [hsplit]
  simp only [List.forall_mem_append]

/-- Every field keeps its value only where there is nothing to lose. -/
theorem parseTime_iff (h : ∀ c ∈ s, vsfSysutilIsdigit c = true) (hlen : 14 ≤ s.length) :
    vsfSysutilParseTime s = .ok (dateFields s) ↔
      s.length ≤ intMax / 8 ∧ ∀ c ∈ s.take 14, c = 48 := by
  by_cases hfits : s.length ≤ intMax / 8
  · rw [parseTime_digits h hlen hfits, dateFields, if_pos hlen, forall_take_fields,
      and_iff_right hfits,
      ← copied_field_eq_iff h 0 4 (by omega), ← copied_field_eq_iff h 4 2 (by omega),
      ← copied_field_eq_iff h 6 2 (by omega), ← copied_field_eq_iff h 8 2 (by omega),
      ← copied_field_eq_iff h 10 2 (by omega), ← copied_field_eq_iff h 12 2 (by omega)]
    simp only [Except.ok.injEq, Tm.mk.injEq, Nat.reduceSub]
    omega
  · rw [parseTime_long h (Nat.lt_of_not_le hfits)]
    exact iff_of_false (fun heq => by cases heq) fun hboth => hfits hboth.1

/-! ## `handle_mdtm` -/

/-- The parser finds the fields of the date, and where the argument of MDTM is the
date and a name, `handle_mdtm` goes on with their time. -/
def MdtmReads (date : Bytes) : Prop :=
  vsfSysutilParseTime date = .ok (dateFields date) ∧
    ∀ (W : Type) (cfg : Tunables) (k : Kernel W) (st : State W) (name : Bytes),
      st.session.ftpArgStr = date ++ 32 :: name →
      mdtmDoWrite cfg (k.stat st.world (date ++ 32 :: name)).isSome (date ++ 32 :: name) = true →
      handleMdtm cfg k st =
        mdtmChecked cfg k true (k.stat st.world (date ++ 32 :: name))
          (k.mktime (dateFields date)) (st.setSess .session { st.session with ftpArgStr := name })

theorem space_not_mem_digits (h : ∀ c ∈ s, vsfSysutilIsdigit c = true) : (32 : UInt8) ∉ s :=
  fun hmem => absurd (h 32 hmem) (by decide)

theorem handleMdtm_date (cfg : Tunables) (k : Kernel W) (st : State W) {date name : Bytes}
    (hdate : (32 : UInt8) ∉ date) (harg : st.session.ftpArgStr = date ++ 32 :: name)
    (hwrite : mdtmDoWrite cfg (k.stat st.world (date ++ 32 :: name)).isSome (date ++ 32 :: name) =
      true) :
    handleMdtm cfg k st =
      if date.length < 14 then Prog.halt .trap st
      else (orDie (vsfSysutilParseTime date) >>= fun time => do
        updateSession fun sess => { sess with ftpArgStr := name }
        mdtmChecked cfg k true (k.stat st.world (date ++ 32 :: name)) (k.mktime time)) st := by
  have hstart : handleMdtm cfg k st =
      (if mdtmDoWrite cfg (k.stat st.world st.session.ftpArgStr).isSome st.session.ftpArgStr then
        if (strSplitChar st.session.ftpArgStr 32).1.length < 14 then Prog.halt .trap
        else do
          let time ← orDie (vsfSysutilParseTime (strSplitChar st.session.ftpArgStr 32).1)
          updateSession fun sess =>
            { sess with ftpArgStr := (strSplitChar st.session.ftpArgStr 32).2 }
          mdtmChecked cfg k true (k.stat st.world st.session.ftpArgStr) (k.mktime time)
      else mdtmChecked cfg k false (k.stat st.world st.session.ftpArgStr) 0) st := rfl
  rw [hstart, harg, hwrite, if_pos rfl, strSplitChar_append (by decide) hdate]
  dsimp only
  split_ifs <;> rfl

/-- A date without a time stops the process: the cast asks for fourteen characters. -/
theorem handleMdtm_short (cfg : Tunables) (k : Kernel W) (st : State W) {date name : Bytes}
    (hdate : (32 : UInt8) ∉ date) (hshort : date.length < 14)
    (harg : st.session.ftpArgStr = date ++ 32 :: name)
    (hwrite : mdtmDoWrite cfg (k.stat st.world (date ++ 32 :: name)).isSome (date ++ 32 :: name) =
      true) :
    handleMdtm cfg k st = ([], st, .error .trap) := by
  rw [handleMdtm_date cfg k st hdate harg hwrite, if_pos hshort]
  rfl

theorem mdtmDoWrite_date {date name : Bytes} (h : ∀ c ∈ date, vsfSysutilIsdigit c = true)
    (hlen : date.length = 8 ∨ date.length = 14) :
    mdtmDoWrite {} false (date ++ 32 :: name) = true := by
  have hspace : strLocateChar (date ++ 32 :: name) 32 = some date.length := by
    rw [strLocateChar, ministr_eq (by decide), strLocateText_eq (by simp)]
    exact (firstAt_singleton (space_not_mem_digits h)).locate
  cases date with
  | nil => simp at hlen
  | cons c date =>
      have hdigit := h c List.mem_cons_self
      unfold mdtmDoWrite
      rw [hspace]
      simp only [List.cons_append, List.head?_cons, hdigit]
      rcases hlen with hlen | hlen
      · rw [hlen]
        rfl
      · rw [hlen]
        rfl

/-- A host without files. -/
def bareKernel : Kernel Script := { scriptKernel with stat := fun _ _ => none }

/-- A client that has sent a date and the name `a`. -/
def dateSent (date : Bytes) : State Script :=
  (scriptLogin {} false [] []).setSess .session
    { localClient false with ftpArgStr := date ++ 32 :: bytes "a" }

theorem not_mdtmReads_short (h : ∀ c ∈ s, vsfSysutilIsdigit c = true) (hlen : s.length = 8) :
    ¬ MdtmReads s := by
  rintro ⟨-, hrun⟩
  have hwrite : mdtmDoWrite {} false (s ++ 32 :: bytes "a") = true :=
    mdtmDoWrite_date h (Or.inl hlen)
  have hgoes := hrun Script {} bareKernel (dateSent s) (bytes "a") rfl hwrite
  rw [handleMdtm_short {} bareKernel (dateSent s) (space_not_mem_digits h) (by omega) rfl
    hwrite] at hgoes
  have hreply : (mdtmChecked {} bareKernel true none 0
      ((dateSent s).setSess .session
        { (dateSent s).session with ftpArgStr := bytes "a" })).2.2 = .ok () := rfl
  have hends := congrArg (fun run => run.2.2) hgoes
  exact absurd (hends.trans hreply) (by simp)

theorem mdtmReads_iff (h : ∀ c ∈ s, vsfSysutilIsdigit c = true)
    (hlen : s.length = 8 ∨ 14 ≤ s.length) :
    MdtmReads s ↔ 14 ≤ s.length ∧ s.length ≤ intMax / 8 ∧ ∀ c ∈ s.take 14, c = 48 := by
  constructor
  · intro hreads
    rcases hlen with hlen | hlen
    · exact absurd hreads (not_mdtmReads_short h hlen)
    · exact ⟨hlen, (parseTime_iff h hlen).mp hreads.1⟩
  · rintro ⟨hlong, hzeros⟩
    have hparse := (parseTime_iff h hlong).mpr hzeros
    refine ⟨hparse, fun W cfg k st name harg hwrite => ?_⟩
    rw [handleMdtm_date cfg k st (space_not_mem_digits h) harg hwrite, if_neg (by omega), hparse]
    rfl

/-! ## The date in the reply -/

/-- A broken-down time with the ranges of its fields. -/
structure CalendarTime where
  year : Nat
  mon : Nat
  mday : Nat
  hour : Nat
  min : Nat
  sec : Nat
  yearRange : 1000 ≤ year ∧ year ≤ 9999
  monRange : 1 ≤ mon ∧ mon ≤ 12
  mdayRange : 1 ≤ mday ∧ mday ≤ 31
  hourRange : hour ≤ 23
  minRange : min ≤ 59
  secRange : sec ≤ 60

def CalendarTime.toTm (t : CalendarTime) : Tm :=
  { year := t.year - 1900, mon := t.mon - 1, mday := t.mday, hour := t.hour, min := t.min,
    sec := t.sec }

/-- A number below 100. -/
def twoDigits (n : Nat) : Bytes := [UInt8.ofNat (48 + n / 10), UInt8.ofNat (48 + n % 10)]

/-- `strftime(3)` with `%Y%m%d%H%M%S`, for a year of four digits. -/
def numericDate (t : CalendarTime) : Bytes :=
  twoDigits (t.year / 100) ++ (twoDigits (t.year % 100) ++ (twoDigits t.mon ++
    (twoDigits t.mday ++ (twoDigits t.hour ++ (twoDigits t.min ++ twoDigits t.sec)))))

theorem toNat_digit {d : Nat} (hd : d < 10) : (UInt8.ofNat (48 + d)).toNat = 48 + d := by
  have hsmall : 48 + d < UInt8.size := by
    show 48 + d < 256
    omega
  exact UInt8.toNat_ofNat_of_lt' hsmall

theorem digitValue_ofNat {d : Nat} (hd : d < 10) : digitValue (UInt8.ofNat (48 + d)) = d := by
  rw [digitValue, toNat_digit hd, Nat.add_sub_cancel_left]

theorem isdigit_ofNat {d : Nat} (hd : d < 10) :
    vsfSysutilIsdigit (UInt8.ofNat (48 + d)) = true := by
  rw [isdigit_iff, toNat_digit hd]
  omega

theorem twoDigits_digits {n : Nat} (hn : n < 100) :
    ∀ c ∈ twoDigits n, vsfSysutilIsdigit c = true := by
  intro c hc
  rcases List.mem_cons.mp hc with rfl | hc
  · exact isdigit_ofNat (by omega)
  · rw [List.mem_singleton.mp hc]
    exact isdigit_ofNat (by omega)

theorem value_twoDigits {n : Nat} (hn : n < 100) : value 10 ((twoDigits n).map digitValue) = n := by
  show (0 * 10 + digitValue (UInt8.ofNat (48 + n / 10))) * 10
    + digitValue (UInt8.ofNat (48 + n % 10)) = n
  rw [digitValue_ofNat (by omega), digitValue_ofNat (by omega)]
  omega

theorem numericDate_digits (t : CalendarTime) :
    ∀ c ∈ numericDate t, vsfSysutilIsdigit c = true := by
  obtain ⟨_, _, _, _, _, _, hyear, hmon, hmday, hhour, hmin, hsec⟩ := t
  unfold numericDate
  simp only [List.forall_mem_append]
  refine ⟨twoDigits_digits ?_, twoDigits_digits ?_, twoDigits_digits ?_, twoDigits_digits ?_,
    twoDigits_digits ?_, twoDigits_digits ?_, twoDigits_digits ?_⟩ <;> omega

/-- The date says what the time is. -/
theorem dateFields_numericDate (t : CalendarTime) : dateFields (numericDate t) = t.toTm := by
  have hyear := t.yearRange
  have hmon := t.monRange
  have hmday := t.mdayRange
  have hhour := t.hourRange
  have hmin := t.minRange
  have hsec := t.secRange
  have fyear : decimalField (numericDate t) 0 4 = t.year := by
    show (((0 * 10 + digitValue (UInt8.ofNat (48 + t.year / 100 / 10))) * 10
      + digitValue (UInt8.ofNat (48 + t.year / 100 % 10))) * 10
      + digitValue (UInt8.ofNat (48 + t.year % 100 / 10))) * 10
      + digitValue (UInt8.ofNat (48 + t.year % 100 % 10)) = t.year
    rw [digitValue_ofNat (by omega), digitValue_ofNat (by omega), digitValue_ofNat (by omega),
      digitValue_ofNat (by omega)]
    omega
  have fmon : decimalField (numericDate t) 4 2 = t.mon := value_twoDigits (by omega)
  have fmday : decimalField (numericDate t) 6 2 = t.mday := value_twoDigits (by omega)
  have fhour : decimalField (numericDate t) 8 2 = t.hour := value_twoDigits (by omega)
  have fmin : decimalField (numericDate t) 10 2 = t.min := value_twoDigits (by omega)
  have fsec : decimalField (numericDate t) 12 2 = t.sec := value_twoDigits (by omega)
  have hlen : 14 ≤ (numericDate t).length := Nat.le_refl 14
  unfold dateFields
  rw [if_pos hlen, fyear, fmon, fmday, fhour, fmin, fsec]
  rfl

/-- What the reply prints is not read back. -/
theorem parseTime_numericDate (t : CalendarTime) :
    vsfSysutilParseTime (numericDate t) ≠ .ok t.toTm := by
  intro h
  have hlen : 14 ≤ (numericDate t).length := Nat.le_refl 14
  rw [← dateFields_numericDate, parseTime_iff (numericDate_digits t) hlen] at h
  have hfirst : UInt8.ofNat (48 + t.year / 100 / 10) = 48 := h.2 _ List.mem_cons_self
  have hyear := t.yearRange
  have hzero := congrArg UInt8.toNat hfirst
  rw [toNat_digit (by omega)] at hzero
  have hbase : (48 : UInt8).toNat = 48 := rfl
  omega

theorem mdtm_dates (s : Bytes) (t : CalendarTime) :
    ((∀ c ∈ s, vsfSysutilIsdigit c = true) → s.length = 8 ∨ 14 ≤ s.length →
      (MdtmReads s ↔ 14 ≤ s.length ∧ s.length ≤ intMax / 8 ∧ ∀ c ∈ s.take 14, c = 48)) ∧
      vsfSysutilParseTime (numericDate t) ≠ .ok t.toTm :=
  ⟨fun h hlen => mdtmReads_iff h hlen, parseTime_numericDate t⟩

/-- 2 March 2015, 10:20:30. -/
def marchMorning : CalendarTime where
  year := 2015
  mon := 3
  mday := 2
  hour := 10
  min := 20
  sec := 30
  yearRange := by decide
  monRange := by decide
  mdayRange := by decide
  hourRange := by decide
  minRange := by decide
  secRange := by decide

/-- Fourteen zeros are read, and the date of the reply is not. -/
theorem mdtm_dates_zeros :
    MdtmReads (List.replicate 14 48) ∧
      numericDate marchMorning = bytes "20150302102030" ∧
      vsfSysutilParseTime (numericDate marchMorning) ≠ .ok marchMorning.toTm := by
  have hdates := mdtm_dates (List.replicate 14 48) marchMorning
  have hfits : (List.replicate 14 (48 : UInt8)).length ≤ intMax / 8 := by
    rw [List.length_replicate]
    unfold intMax
    omega
  have hdigits : ∀ c ∈ List.replicate 14 (48 : UInt8), vsfSysutilIsdigit c = true := by
    intro c hc
    rw [List.eq_of_mem_replicate hc]
    decide
  have hzeros : ∀ c ∈ (List.replicate 14 (48 : UInt8)).take 14, c = 48 := by
    intro c hc
    exact List.eq_of_mem_replicate (List.mem_of_mem_take hc)
  refine ⟨(hdates.1 hdigits (.inr ?_)).mpr ⟨?_, hfits, hzeros⟩, by decide +kernel, hdates.2⟩
  · exact Nat.le_refl 14
  · exact Nat.le_refl 14

/-- The date alone stops the process. -/
theorem mdtm_dates_misread :
    vsfSysutilParseTime (bytes "20150302102030") =
        .ok { year := -1699, mon := -1, mday := 0, hour := 1, min := 2, sec := 3 } ∧
      dateFields (bytes "20150302102030") =
        { year := 115, mon := 2, mday := 2, hour := 10, min := 20, sec := 30 } ∧
      (handleMdtm {} bareKernel (dateSent (bytes "20150302"))).2.2 = .error .trap := by
  refine ⟨by decide +kernel, by decide +kernel, rfl⟩

end Vsftpd.Session
