import Vsftpd.Parseconf.LoadSetting

/-!
# Space in front of a setting

The loop of `vsf_parseconf_load_setting` that counts the space does not move the text
that is split.  So a line with space in front names no setting: two lines that differ
in it have the same outcome when the one without would change nothing.
-/

namespace Vsftpd.Parseconf

open Vsftpd.Lib Vsftpd.OctalCodec

variable {s w setting value : Bytes} {t : Settings}

/-! ## Lines that change nothing -/

/-- The variable has the value already, or the setting has no variable or no value that it
could be given. -/
def InPlace (setting value : Bytes) (t : Settings) : Prop :=
  match parseconfStrArray.lookup setting, parseconfBoolArray.lookup setting,
    parseconfUintArray.lookup setting with
  | some v, _, _ => (value = [] ∧ t.str v = none) ∨
      ((∃ c ∈ value, isspace c = false) ∧ t.str v = stringDenoted value)
  | none, some v, _ => ∀ b ∈ boolDenoted value, t.bool v = b
  | none, none, some v => value ≠ [] → t.uint v = numberStored value
  | none, none, none => True

theorem settings_ext_iff (a b : Settings) :
    a = b ↔ a.str = b.str ∧ a.bool = b.bool ∧ a.uint = b.uint := by
  cases a
  cases b
  rw [Settings.mk.injEq]

theorem setStr_eq_self (v : StrTunable) (x : Option Bytes) : t.setStr v x = t ↔ t.str v = x := by
  unfold Settings.setStr
  rw [settings_ext_iff]
  simp only [and_true]
  rw [Function.update_eq_self_iff, eq_comm]

theorem setBool_eq_self (v : BoolTunable) (x : Bool) : t.setBool v x = t ↔ t.bool v = x := by
  unfold Settings.setBool
  rw [settings_ext_iff]
  simp only [and_true, true_and]
  rw [Function.update_eq_self_iff, eq_comm]

theorem setUint_eq_self (v : UintTunable) (n : Nat) : t.setUint v n = t ↔ t.uint v = n := by
  unfold Settings.setUint
  rw [settings_ext_iff]
  simp only [true_and]
  rw [Function.update_eq_self_iff, eq_comm]

theorem loadStr_eq_self (v : StrTunable) (hlen : value.length < 2 ^ 32) :
    loadStr v value t = .ok t ↔ (value = [] ∧ t.str v = none) ∨
      ((∃ c ∈ value, isspace c = false) ∧ t.str v = stringDenoted value) := by
  by_cases hempty : value = []
  · rw [hempty]
    show Except.ok (t.setStr v none) = .ok t ↔ _
    rw [Except.ok.injEq, setStr_eq_self]
    simp
  · by_cases htext : ∃ c ∈ value, isspace c = false
    · rw [(loadStr_iff v t hlen).mpr (.inr htext), Except.ok.injEq, setStr_eq_self]
      simp [hempty, htext]
    · have hblank : ∀ c ∈ value, isspace c = true := by
        intro c hc
        by_contra hspace
        exact htext ⟨c, hc, Bool.eq_false_iff.mpr hspace⟩
      rw [loadStr, if_neg (by simpa [strIsempty] using hempty),
        strdupTrimmed_blank hblank hempty hlen]
      exact iff_of_false (fun h => by cases h) fun h => by
        rcases h with h | h
        · exact hempty h.1
        · exact htext h.1

theorem loadBool_eq_self (v : BoolTunable) (setting value : Bytes) :
    loadBool v setting value false t = .ok t ↔ ∀ b ∈ boolDenoted value, t.bool v = b := by
  rw [loadBool_eq, Except.ok.injEq]
  cases boolDenoted value with
  | none => simp [applied]
  | some b =>
      show t.setBool v b = t ↔ _
      rw [setBool_eq_self]
      simp

theorem loadTables_eq_self (hlen : value.length ≤ intMax / 8) :
    loadTables setting value false t = .ok t ↔ InPlace setting value t := by
  have hword : value.length < 2 ^ 32 := by
    unfold intMax at hlen
    omega
  unfold loadTables InPlace
  cases parseconfStrArray.lookup setting with
  | some v => exact loadStr_eq_self v hword
  | none =>
      by_cases hempty : value = []
      · rw [hempty]
        cases parseconfBoolArray.lookup setting with
        | some v =>
            apply iff_of_true rfl
            rw [boolDenoted_nil]
            exact fun b hb => by cases hb
        | none =>
            cases parseconfUintArray.lookup setting with
            | some v => exact iff_of_true rfl fun h => absurd rfl h
            | none => exact iff_of_true rfl trivial
      · have hvalue : strIsempty value = false := by simpa [strIsempty] using hempty
        simp only [hvalue, if_false, Bool.false_eq_true]
        cases parseconfBoolArray.lookup setting with
        | some v => exact loadBool_eq_self v setting value
        | none =>
            cases parseconfUintArray.lookup setting with
            | some v =>
                show loadUint v value t = .ok t ↔ (value ≠ [] → _)
                rw [loadUint_eq v t hlen, Except.ok.injEq, setUint_eq_self]
                exact ⟨fun h _ => h, fun h => h hempty⟩
            | none => exact iff_of_true rfl trivial

/-! ## A name with space in front -/

theorem names_begin_without_space :
    ∀ name ∈ parseconfStrArray.map Prod.fst ++ parseconfBoolArray.map Prod.fst ++
      parseconfUintArray.map Prod.fst, (name.head?.any isspace) = false := by
  decide +kernel

theorem lookup_space {V : Type} {table : List (Bytes × V)}
    (hnames : ∀ name ∈ table.map Prod.fst, (name.head?.any isspace) = false)
    (hw : ∀ c ∈ w, isspace c = true) (hne : w ≠ []) : table.lookup (w ++ setting) = none := by
  rw [List.lookup_eq_none_iff]
  intro entry hmem
  have hname := hnames entry.1 (List.mem_map_of_mem hmem)
  rw [bne_iff_ne]
  intro heq
  cases w with
  | nil => exact hne rfl
  | cons c w =>
      rw [← heq, List.cons_append, List.head?_cons, Option.any_some,
        hw c List.mem_cons_self] at hname
      exact Bool.noConfusion hname

/-- The text of the error that says that a line has no setting. -/
def unknownMessage (value : Bytes) : String :=
  if strIsempty value then "missing value in config file for: "
  else "unrecognised variable in config file: "

theorem loadTables_space (hw : ∀ c ∈ w, isspace c = true) (hne : w ≠ []) (errsFatal : Bool) :
    loadTables (w ++ setting) value errsFatal t =
      reject (unknownMessage value) (w ++ setting) errsFatal t := by
  have hnames := names_begin_without_space
  simp only [List.mem_append, or_imp, forall_and] at hnames
  unfold loadTables unknownMessage
  rw [lookup_space hnames.1.1 hw hne, lookup_space hnames.1.2 hw hne, lookup_space hnames.2 hw hne]
  split_ifs
  · rfl
  · rfl

theorem cString_space (hw : ∀ c ∈ w, isspace c = true) (s : Bytes) :
    cString (w ++ s) = w ++ cString s := by
  unfold cString
  rw [List.takeWhile_append_of_pos]
  intro c hc
  apply decide_eq_true
  rintro rfl
  exact absurd (hw 0 hc) (by decide)

theorem split_space (hw : ∀ c ∈ w, isspace c = true) (s : Bytes) :
    nameOf (w ++ s) = w ++ nameOf s ∧ valueOf (w ++ s) = valueOf s := by
  have hplain : ∀ c ∈ w, decide (c ≠ 61) = true := by
    intro c hc
    apply decide_eq_true
    rintro rfl
    exact absurd (hw 61 hc) (by decide)
  unfold nameOf valueOf
  rw [List.takeWhile_append_of_pos hplain, List.dropWhile_append_of_pos hplain]
  exact ⟨rfl, rfl⟩

theorem loadSetting_eq (pSetting : Bytes) (errsFatal : Bool)
    (hlen : (cString pSetting).length ≤ intMax / 8) :
    vsfParseconfLoadSetting pSetting errsFatal t =
      loadTables (nameOf (cString pSetting)) (valueOf (cString pSetting)) errsFatal t := by
  unfold vsfParseconfLoadSetting orDie
  rw [strlen_eq hlen, Except.mapError, ok_bind, split_setting]

theorem loadSetting_long (pSetting : Bytes) (errsFatal : Bool)
    (hlen : intMax / 8 < (cString pSetting).length) :
    vsfParseconfLoadSetting pSetting errsFatal t =
      .error (.die (bytes "string suspiciously long")) := by
  unfold vsfParseconfLoadSetting orDie
  rw [strlen_long hlen, Except.mapError, error_bind]

/-- The setting is not found, whatever follows the space. -/
theorem loadSetting_space (hw : ∀ c ∈ w, isspace c = true) (hne : w ≠ []) (line : Bytes)
    (errsFatal : Bool) (hfits : (w ++ cString line).length ≤ intMax / 8) :
    vsfParseconfLoadSetting (w ++ line) errsFatal t =
      reject (unknownMessage (valueOf (cString line))) (w ++ nameOf (cString line))
        errsFatal t := by
  rw [loadSetting_eq (w ++ line) errsFatal (by rwa [cString_space hw]), cString_space hw,
    (split_space hw _).1, (split_space hw _).2, loadTables_space hw hne]

/-! ## Errors -/

def errorMessages : List String :=
  ["missing value in config file for: ", "bad bool value in config file for: ",
    "unrecognised variable in config file: "]

theorem reject_error {message : String} {errsFatal : Bool} {e : Stop}
    (h : reject message setting errsFatal t = .error e) :
    errsFatal = true ∧ e = .die (bytes message ++ setting) := by
  unfold reject at h
  split_ifs at h with hfatal
  exact ⟨hfatal, (Except.error.inj h).symm⟩

theorem loadStr_error {v : StrTunable} {e : Stop} (h : loadStr v value t = .error e) :
    e = .bounds := by
  unfold loadStr at h
  split_ifs at h
  cases htrim : strStrdupTrimmed value with
  | ok x =>
      rw [htrim] at h
      cases h
  | error e' =>
      rw [htrim, error_bind] at h
      unfold strStrdupTrimmed at htrim
      dsimp only at htrim
      split_ifs at htrim
      rw [← Except.error.inj h, ← Except.error.inj htrim]

theorem loadTables_error {errsFatal : Bool} {e : Stop} (hlen : value.length ≤ intMax / 8)
    (h : loadTables setting value errsFatal t = .error e) :
    e = .bounds ∨ errsFatal = true ∧
      ∃ message ∈ errorMessages, e = .die (bytes message ++ setting) := by
  have hreject : ∀ message ∈ errorMessages,
      reject message setting errsFatal t = .error e → e = .bounds ∨ errsFatal = true ∧
        ∃ message ∈ errorMessages, e = .die (bytes message ++ setting) := by
    intro message hmem hr
    obtain ⟨hfatal, he⟩ := reject_error hr
    exact .inr ⟨hfatal, message, hmem, he⟩
  unfold loadTables at h
  cases hstr : parseconfStrArray.lookup setting with
  | some v =>
      rw [hstr] at h
      exact .inl (loadStr_error h)
  | none =>
      rw [hstr] at h
      dsimp only at h
      split_ifs at h
      · exact hreject _ (by decide) h
      · cases hbool : parseconfBoolArray.lookup setting with
        | some v =>
            rw [hbool] at h
            dsimp only at h
            unfold loadBool at h
            dsimp only at h
            split_ifs at h
            exact hreject _ (by decide) h
        | none =>
            rw [hbool] at h
            dsimp only at h
            cases huint : parseconfUintArray.lookup setting with
            | some v =>
                rw [huint] at h
                dsimp only at h
                rw [loadUint_eq v t hlen] at h
                cases h
            | none =>
                rw [huint] at h
                exact hreject _ (by decide) h

/-- The messages begin with different letters. -/
theorem errorMessages_heads :
    ∀ m ∈ errorMessages, (bytes m).head? ≠ some 115 ∧
      ∀ n ∈ errorMessages, (bytes m).head? = (bytes n).head? → m = n := by
  decide

theorem head?_bytes_append {m : String} (hm : m ∈ errorMessages) (rest : Bytes) :
    (bytes m ++ rest).head? = (bytes m).head? := by
  have hne : ∀ m ∈ errorMessages, bytes m ≠ [] := by decide
  rw [List.head?_append_of_ne_nil _ (hne m hm)]

theorem message_space {m n : String} (hm : m ∈ errorMessages) (hn : n ∈ errorMessages)
    (h : bytes m ++ (w ++ setting) = bytes n ++ setting) : w = [] := by
  have hheads := congrArg List.head? h
  rw [head?_bytes_append hm, head?_bytes_append hn] at hheads
  obtain rfl := (errorMessages_heads m hm).2 n hn hheads
  have hrest := List.append_cancel_left h
  have hlen := congrArg List.length hrest
  rw [List.length_append] at hlen
  exact List.length_eq_zero_iff.mp (by omega)

/-! ## Two lines -/

/-- Space in front makes no difference to a line that is too long in any case, or whose
errors are passed over and whose setting is in place. -/
theorem loadSetting_space_iff (w line : Bytes) (hw : ∀ c ∈ w, isspace c = true)
    (errsFatal : Bool) (t : Settings) :
    vsfParseconfLoadSetting (w ++ line) errsFatal t = vsfParseconfLoadSetting line errsFatal t ↔
      w = [] ∨ intMax / 8 < (cString line).length ∨
        (w ++ cString line).length ≤ intMax / 8 ∧ errsFatal = false ∧
          InPlace (nameOf (cString line)) (valueOf (cString line)) t := by
  by_cases hne : w = []
  · rw [hne, List.nil_append]
    exact iff_of_true rfl (.inl rfl)
  rw [or_iff_right hne]
  by_cases hlong : intMax / 8 < (cString line).length
  · have hlonger : intMax / 8 < (cString (w ++ line)).length := by
      rw [cString_space hw, List.length_append]
      omega
    rw [loadSetting_long _ _ hlong, loadSetting_long _ _ hlonger]
    exact iff_of_true rfl (.inl hlong)
  have hvalue : (valueOf (cString line)).length ≤ intMax / 8 :=
    (valueOf_length_le _).trans (Nat.le_of_not_lt hlong)
  rw [or_iff_right hlong, loadSetting_eq line errsFatal (Nat.le_of_not_lt hlong)]
  by_cases hfits : (w ++ cString line).length ≤ intMax / 8
  · rw [loadSetting_space hw hne line errsFatal hfits, and_iff_right hfits]
    cases errsFatal with
    | false =>
        rw [and_iff_right rfl, ← loadTables_eq_self hvalue]
        exact eq_comm
    | true =>
        refine iff_of_false (fun h => ?_) fun h => Bool.noConfusion h.1
        have hmem : unknownMessage (valueOf (cString line)) ∈ errorMessages := by
          unfold unknownMessage
          split_ifs
          · decide
          · decide
        rcases loadTables_error hvalue h.symm with hbounds | ⟨-, message, hmessage, hdie⟩
        · cases hbounds
        · exact hne (message_space hmem hmessage (Stop.die.inj hdie))
  · refine iff_of_false (fun h => ?_) fun h => hfits h.1
    rw [loadSetting_long _ _ (by rw [cString_space hw]; omega)] at h
    rcases loadTables_error hvalue h.symm with hbounds | ⟨-, message, hmessage, hdie⟩
    · cases hbounds
    · have hheads := congrArg List.head? (Stop.die.inj hdie)
      rw [head?_bytes_append hmessage] at hheads
      exact (errorMessages_heads message hmessage).1 hheads.symm

/-- With a space in front, `anonymous_enable=YES` leaves the variable as it was. -/
theorem loadSetting_space_fails :
    (vsfParseconfLoadSetting (bytes " anonymous_enable=YES") false unset).map
        (·.bool .anonymousEnable) = .ok false ∧
      (vsfParseconfLoadSetting (bytes "anonymous_enable=YES") false unset).map
        (·.bool .anonymousEnable) = .ok true := by
  have hspace := loadSetting_space (w := bytes " ") (t := unset) (by decide +kernel) (by decide)
    (bytes "anonymous_enable=YES") false (by decide)
  have htext : bytes " anonymous_enable=YES" = bytes " " ++ bytes "anonymous_enable=YES" := by
    decide
  constructor
  · rw [htext, hspace]
    rfl
  · decide +kernel

theorem loadSetting_space_fatal :
    vsfParseconfLoadSetting (bytes " " ++ bytes "listen=NO") true unset =
        vsfParseconfLoadSetting (bytes "listen=NO") true unset ↔
      bytes " " = [] ∨ intMax / 8 < (cString (bytes "listen=NO")).length ∨
        (bytes " " ++ cString (bytes "listen=NO")).length ≤ intMax / 8 ∧ true = false ∧
          InPlace (nameOf (cString (bytes "listen=NO"))) (valueOf (cString (bytes "listen=NO")))
            unset :=
  loadSetting_space_iff (bytes " ") (bytes "listen=NO") (by decide +kernel) true unset

end Vsftpd.Parseconf
