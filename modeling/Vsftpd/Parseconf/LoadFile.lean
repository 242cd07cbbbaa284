import Vsftpd.Lib.Writes
import Vsftpd.MyStr.Lines
import Vsftpd.Parseconf.Defaults
import Vsftpd.Parseconf.LeadingSpace
import Vsftpd.Session.FtpCmdIo

/-!
# Loading a file of settings

`vsf_parseconf_load_file`, with what the file system says when it is called.  A line makes the
same change whatever the settings are, so a file that is loaded is a list of writes.
-/

namespace Vsftpd.Parseconf

open Vsftpd.Lib

/-! ## The code -/

def vsftpConfFileMax : Nat := 100000

/-- What `stat` says of a file that is there. -/
structure Statbuf where
  uid : Nat
  isRegfile : Bool
  deriving DecidableEq, Repr

inductive StatResult where
  | found (statbuf : Statbuf)
  | noent
  | failed
  deriving DecidableEq, Repr

/-- How a read of a file ends: with its contents, with an error, or with the process. -/
inductive FileRead where
  | text (contents : Bytes)
  | failed
  | died (text : Bytes)
  deriving DecidableEq, Repr

/-- The answers of the file system, and who asks.  The two calls about one file need not be
answered alike. -/
structure Disk where
  read : Bytes → FileRead
  stat : Bytes → StatResult
  getuid : Nat

/-- How the process ends. -/
inductive Halt where
  | die (text : Bytes)
  | bounds
  | bug (text : Bytes)
  | exit (text : Bytes)
  deriving DecidableEq, Repr

def Stop.halt : Stop → Halt
  | .die text => .die text
  | .bounds => .bounds

def stopped {α : Type} : Except Stop α → Except Halt α
  | .ok a => .ok a
  | .error e => .error e.halt

/-- The settings and `s_p_saved_filename`. -/
structure Conf where
  settings : Settings
  savedFilename : Option Bytes

/-- Not more than `maxsize` bytes are read. -/
def strFileread (disk : Disk) (filename : Bytes) (maxsize : Nat) : FileRead :=
  match disk.read filename with
  | .text contents => .text (contents.take maxsize)
  | result => result

def strAllSpace (s : Bytes) : Bool := s.all isspace

/-- A line without a setting. -/
def skipsLine (line : Bytes) : Bool :=
  strIsempty line || line.head? = some 35 || strAllSpace line

/-- The loop over the lines from `pos` on; the fuel counts the rounds. -/
def loadLines (text : Bytes) (errsFatal : Bool) : Nat → Nat → Settings → Except Stop Settings
  | 0, _, t => .ok t
  | n + 1, pos, t =>
    match strGetline text pos with
    | none => .ok t
    | some (line, next) =>
      if skipsLine line then loadLines text errsFatal n next t
      else do
        let t ← vsfParseconfLoadSetting line errsFatal t
        loadLines text errsFatal n next t

/-- The file is one of the process's user, and a regular one. -/
def ownedRegfile (disk : Disk) (filename : Bytes) : Bool :=
  match disk.stat filename with
  | .found statbuf => statbuf.uid = disk.getuid && statbuf.isRegfile
  | _ => false

/-- The file `filename`, which has been saved. -/
def loadSaved (disk : Disk) (filename : Bytes) (errsFatal : Bool) (t : Settings) :
    Except Halt Settings :=
  match strFileread disk filename vsftpConfFileMax with
  | .died text => .error (.die text)
  | .failed =>
    if errsFatal then .error (.die (bytes "cannot read config file: " ++ filename)) else .ok t
  | .text text =>
    if ownedRegfile disk filename then stopped (loadLines text errsFatal (text.length + 1) 0 t)
    else .error (.die (bytes "config file not owned by correct user, or not a file"))

/-- Without a name the file that was loaded last is loaded again. -/
def vsfParseconfLoadFile (disk : Disk) (pFilename : Option Bytes) (errsFatal : Bool) (conf : Conf) :
    Except Halt Conf :=
  match pFilename.or conf.savedFilename with
  | none => .error (.bug (bytes "null filename in vsf_parseconf_load_file"))
  | some filename => do
    let settings ← loadSaved disk filename errsFatal conf.settings
    return ⟨settings, some filename⟩

/-! ## What a line writes -/

/-- The change that the code makes for a line. -/
def written (setting value : Bytes) : Option Change :=
  match parseconfStrArray.lookup setting, parseconfBoolArray.lookup setting,
    parseconfUintArray.lookup setting with
  | some v, _, _ => some (.str v (stringDenoted value))
  | none, some v, _ => (boolDenoted value).map (.bool v)
  | none, none, some v => if value = [] then none else some (.uint v (numberStored value))
  | none, none, none => none

/-- A string whose value is nothing but space. -/
def BlankString (setting value : Bytes) : Prop :=
  (parseconfStrArray.lookup setting).isSome = true ∧ value ≠ [] ∧ strAllSpace value = true

instance (setting value : Bytes) : Decidable (BlankString setting value) :=
  inferInstanceAs (Decidable (_ ∧ _ ∧ _))

def lineWrite (line : Bytes) : Option Change :=
  written (nameOf (cString line)) (valueOf (cString line))

/-- A line that does not end the process. -/
structure LineOk (errsFatal : Bool) (line : Bytes) : Prop where
  length : (cString line).length ≤ intMax / 8
  text : ¬ BlankString (nameOf (cString line)) (valueOf (cString line))
  valid : errsFatal = true → (lineWrite line).isSome = true

instance (errsFatal : Bool) (line : Bytes) : Decidable (LineOk errsFatal line) :=
  decidable_of_iff
    ((cString line).length ≤ intMax / 8 ∧
      ¬ BlankString (nameOf (cString line)) (valueOf (cString line)) ∧
      (errsFatal = true → (lineWrite line).isSome = true))
    ⟨fun h => ⟨h.1, h.2.1, h.2.2⟩, fun h => ⟨h.length, h.text, h.valid⟩⟩

variable {setting value line text : Bytes} {errsFatal : Bool} {t t' : Settings} {n pos : Nat}

theorem reject_ok_iff {message : String} :
    reject message setting errsFatal t = .ok t' ↔ errsFatal = false ∧ t' = t := by
  unfold reject
  cases errsFatal with
  | true => exact iff_of_false (fun h => by cases h) fun h => Bool.noConfusion h.1
  | false =>
      show Except.ok t = .ok t' ↔ _
      rw [Except.ok.injEq, eq_comm, and_iff_right rfl]

theorem loadBool_ok_iff (v : BoolTunable) :
    loadBool v setting value errsFatal t = .ok t' ↔
      (errsFatal = true → (boolDenoted value).isSome = true) ∧
        t' = applied ((boolDenoted value).map (.bool v)) t := by
  have hset (b : Bool) : (Except.ok (t.setBool v b) : Except Stop Settings) = .ok t' ↔
      (errsFatal = true → (some b).isSome = true) ∧
        t' = applied ((some b).map (.bool v)) t := by
    rw [Except.ok.injEq, eq_comm]
    exact (and_iff_right fun _ => rfl).symm
  rw [boolDenoted_eq]
  unfold loadBool
  dsimp only
  split_ifs with hyes hno
  · exact hset true
  · exact hset false
  · rw [reject_ok_iff]
    cases errsFatal <;> simp [applied]

theorem written_empty (hstr : parseconfStrArray.lookup setting = none) :
    written setting [] = none := by
  unfold written
  rw [hstr]
  cases parseconfBoolArray.lookup setting with
  | some v =>
      show (boolDenoted []).map (.bool v) = none
      rw [boolDenoted_nil]
      rfl
  | none => cases parseconfUintArray.lookup setting <;> rfl

/-- A line does the same to all settings. -/
theorem loadTables_ok_iff (hlen : value.length ≤ intMax / 8) :
    loadTables setting value errsFatal t = .ok t' ↔
      ¬ BlankString setting value ∧ (errsFatal = true → (written setting value).isSome = true) ∧
        t' = applied (written setting value) t := by
  have hword : value.length < 2 ^ 32 := by
    unfold intMax at hlen
    omega
  unfold loadTables
  cases hstr : parseconfStrArray.lookup setting with
  | some v =>
      have hwritten : written setting value = some (.str v (stringDenoted value)) := by
        unfold written
        rw [hstr]
      by_cases hblank : BlankString setting value
      · have hspace : ∀ c ∈ value, isspace c = true := List.all_eq_true.mp hblank.2.2
        have hempty : strIsempty value = false := by simpa [strIsempty] using hblank.2.1
        show loadStr v value t = .ok t' ↔ _
        unfold loadStr
        rw [hempty, if_neg Bool.false_ne_true, strdupTrimmed_blank hspace hblank.2.1 hword]
        exact iff_of_false (fun h => by cases h) fun h => h.1 hblank
      · have htext : value = [] ∨ ∃ c ∈ value, isspace c = false := by
          by_contra hnone
          have hne : value ≠ [] := fun h => hnone (.inl h)
          refine hblank ⟨by rw [hstr]; rfl, hne, List.all_eq_true.mpr fun c hc => ?_⟩
          by_contra hspace
          exact hnone (.inr ⟨c, hc, Bool.eq_false_iff.mpr hspace⟩)
        show loadStr v value t = .ok t' ↔ _
        rw [(loadStr_iff v t hword).mpr htext, hwritten, Except.ok.injEq, eq_comm]
        exact ⟨fun h => ⟨hblank, fun _ => rfl, h⟩, fun h => h.2.2⟩
  | none =>
      have hblank : ¬ BlankString setting value := by
        intro h
        have hsome := h.1
        rw [hstr] at hsome
        exact Bool.noConfusion hsome
      have hrejected (message : String) (hnone : written setting value = none) :
          reject message setting errsFatal t = .ok t' ↔ ¬ BlankString setting value ∧
            (errsFatal = true → (written setting value).isSome = true) ∧
              t' = applied (written setting value) t := by
        rw [reject_ok_iff, and_iff_right hblank, hnone]
        cases errsFatal <;> simp [applied]
      by_cases hempty : value = []
      · rw [hempty] at hrejected ⊢
        exact hrejected _ (written_empty hstr)
      have hvalue : strIsempty value = false := by simpa [strIsempty] using hempty
      simp only [hvalue, Bool.false_eq_true, if_false]
      rw [and_iff_right hblank]
      cases hbool : parseconfBoolArray.lookup setting with
      | some v =>
          have hwritten : written setting value = (boolDenoted value).map (.bool v) := by
            unfold written
            rw [hstr, hbool]
          rw [hwritten, Option.isSome_map]
          exact loadBool_ok_iff v
      | none =>
          cases huint : parseconfUintArray.lookup setting with
          | some v =>
              have hwritten : written setting value = some (.uint v (numberStored value)) := by
                unfold written
                rw [hstr, hbool, huint]
                exact if_neg hempty
              show loadUint v value t = .ok t' ↔ _
              rw [hwritten, loadUint_eq v t hlen, Except.ok.injEq, eq_comm]
              exact ⟨fun h => ⟨fun _ => rfl, h⟩, fun h => h.2⟩
          | none =>
              have hnone : written setting value = none := by
                unfold written
                rw [hstr, hbool, huint]
              have hiff := hrejected "unrecognised variable in config file: " hnone
              rw [and_iff_right hblank] at hiff
              exact hiff

theorem loadSetting_ok_iff :
    vsfParseconfLoadSetting line errsFatal t = .ok t' ↔
      LineOk errsFatal line ∧ t' = applied (lineWrite line) t := by
  by_cases hlen : (cString line).length ≤ intMax / 8
  · have hvalue := (valueOf_length_le (cString line)).trans hlen
    rw [loadSetting_eq line errsFatal hlen, loadTables_ok_iff hvalue]
    exact ⟨fun h => ⟨⟨hlen, h.1, h.2.1⟩, h.2.2⟩, fun h => ⟨h.1.text, h.1.valid, h.2⟩⟩
  · rw [loadSetting_long line errsFatal (Nat.lt_of_not_le hlen)]
    exact iff_of_false (fun h => by cases h) fun h => hlen h.1.length

/-! ## What a file writes -/

/-- The lines with settings. -/
def settingLines (text : Bytes) : List Bytes :=
  (MyStr.pieces text).filter fun line => !skipsLine line

def linesWrites (lines : List Bytes) : List Change := lines.filterMap lineWrite

def applyAll (changes : List Change) (t : Settings) : Settings :=
  changes.foldl (fun t c => c.apply t) t

theorem applyAll_append (changes more : List Change) (t : Settings) :
    applyAll (changes ++ more) t = applyAll more (applyAll changes t) :=
  List.foldl_append

theorem applyAll_toList (change : Option Change) (t : Settings) :
    applyAll change.toList t = applied change t := by
  cases change <;> rfl

theorem linesWrites_cons (line : Bytes) (lines : List Bytes) :
    linesWrites (line :: lines) = (lineWrite line).toList ++ linesWrites lines := by
  unfold linesWrites
  rw [List.filterMap_cons]
  cases lineWrite line <;> rfl

/-- The loop, from where it is to the end of the text. -/
theorem loadLines_ok_iff (hpos : pos ≤ text.length) (hn : text.length - pos < n) :
    loadLines text errsFatal n pos t = .ok t' ↔
      (∀ line ∈ settingLines (text.drop pos), LineOk errsFatal line) ∧
        t' = applyAll (linesWrites (settingLines (text.drop pos))) t := by
  induction n generalizing pos t with
  | zero => exact absurd hn (Nat.not_lt_zero _)
  | succ n ih =>
      rw [loadLines]
      rcases Nat.eq_or_lt_of_le hpos with hend | hmore
      · rw [strGetline, if_pos hend, hend, List.drop_length]
        show Except.ok t = .ok t' ↔ (∀ line ∈ [], LineOk errsFatal line) ∧ t' = t
        rw [Except.ok.injEq, eq_comm]
        exact ⟨fun h => ⟨fun line hline => absurd hline List.not_mem_nil, h⟩, fun h => h.2⟩
      · obtain ⟨piece, next, hget, hstep, hinside, hpieces⟩ := MyStr.strGetline_pieces hmore
        have hlines : settingLines (text.drop pos) =
            if skipsLine piece then settingLines (text.drop next)
            else piece :: settingLines (text.drop next) := by
          unfold settingLines
          rw [hpieces, List.filter_cons]
          cases skipsLine piece <;> rfl
        rw [hget]
        dsimp only
        rw [hlines]
        by_cases hskip : skipsLine piece = true
        · rw [if_pos hskip, if_pos hskip]
          exact ih hinside (by omega)
        · rw [if_neg hskip, if_neg hskip, bind_eq_ok_iff]
          have hrest (t : Settings) := ih (t := t) hinside (by omega)
          simp only [loadSetting_ok_iff, hrest]
          rw [linesWrites_cons, applyAll_append, applyAll_toList, List.forall_mem_cons]
          constructor
          · rintro ⟨t₁, ⟨hline, rfl⟩, hlater, ht'⟩
            exact ⟨⟨hline, hlater⟩, ht'⟩
          · rintro ⟨⟨hline, hlater⟩, ht'⟩
            exact ⟨_, ⟨hline, rfl⟩, hlater, ht'⟩

def fileWrites (disk : Disk) (filename : Bytes) : List Change :=
  match strFileread disk filename vsftpConfFileMax with
  | .text text => linesWrites (settingLines text)
  | _ => []

/-- A read that does not end the process, of a file that is the process's own or not. -/
def ReadOk (owned errsFatal : Bool) : FileRead → Prop
  | .text text => owned = true ∧ ∀ line ∈ settingLines text, LineOk errsFatal line
  | .failed => errsFatal = false
  | .died _ => False

instance (owned errsFatal : Bool) : DecidablePred (ReadOk owned errsFatal)
  | .text _ => inferInstanceAs (Decidable (_ ∧ _))
  | .failed => inferInstanceAs (Decidable (_ = _))
  | .died _ => inferInstanceAs (Decidable False)

/-- A file that does not end the process: it is passed over when it cannot be read, or it is
the process's own and so are all of its lines in order. -/
def FileOk (disk : Disk) (errsFatal : Bool) (filename : Bytes) : Prop :=
  ReadOk (ownedRegfile disk filename) errsFatal (strFileread disk filename vsftpConfFileMax)

instance (disk : Disk) (errsFatal : Bool) (filename : Bytes) :
    Decidable (FileOk disk errsFatal filename) :=
  inferInstanceAs (Decidable (ReadOk _ _ _))

variable {disk : Disk} {filename : Bytes} {conf conf' : Conf}

theorem stopped_ok_iff {α : Type} {x : Except Stop α} {a : α} : stopped x = .ok a ↔ x = .ok a := by
  cases x with
  | ok b =>
      show Except.ok b = .ok a ↔ _
      rw [Except.ok.injEq, Except.ok.injEq]
  | error e => exact iff_of_false (fun h => by cases h) fun h => by cases h

theorem loadSaved_ok_iff :
    loadSaved disk filename errsFatal t = .ok t' ↔
      FileOk disk errsFatal filename ∧ t' = applyAll (fileWrites disk filename) t := by
  unfold loadSaved FileOk fileWrites
  cases strFileread disk filename vsftpConfFileMax with
  | died text => exact iff_of_false (fun h => by cases h) fun h => h.1
  | failed =>
      cases errsFatal with
      | true => exact iff_of_false (fun h => by cases h) fun h => Bool.noConfusion h.1
      | false =>
          show Except.ok t = .ok t' ↔ false = false ∧ t' = t
          rw [Except.ok.injEq, eq_comm, and_iff_right rfl]
  | text text =>
      dsimp only [ReadOk]
      by_cases howned : ownedRegfile disk filename = true
      · rw [if_pos howned, stopped_ok_iff, loadLines_ok_iff (Nat.zero_le _) (by omega),
          List.drop_zero, and_iff_right howned]
      · rw [if_neg howned]
        exact iff_of_false (fun h => by cases h) fun h => howned h.1.1

theorem loadFile_ok_iff (pFilename : Option Bytes) :
    vsfParseconfLoadFile disk pFilename errsFatal conf = .ok conf' ↔
      ∃ filename, pFilename.or conf.savedFilename = some filename ∧
        FileOk disk errsFatal filename ∧
        conf' = ⟨applyAll (fileWrites disk filename) conf.settings, some filename⟩ := by
  unfold vsfParseconfLoadFile
  cases pFilename.or conf.savedFilename with
  | none =>
      refine iff_of_false (fun h => by cases h) ?_
      rintro ⟨filename, hname, -⟩
      cases hname
  | some filename =>
      dsimp only
      rw [bind_eq_ok_iff]
      constructor
      · rintro ⟨t, ht, hconf⟩
        obtain ⟨hok, rfl⟩ := loadSaved_ok_iff.mp ht
        exact ⟨filename, rfl, hok, (Except.ok.inj hconf).symm⟩
      · rintro ⟨other, hname, hok, hconf⟩
        obtain rfl : filename = other := Option.some.inj hname
        exact ⟨_, loadSaved_ok_iff.mpr ⟨hok, rfl⟩, congrArg Except.ok hconf.symm⟩

/-- What may not be in a file that ends the process may not be in one that does not. -/
theorem FileOk.lenient (h : FileOk disk true filename) : FileOk disk false filename := by
  unfold FileOk at h ⊢
  cases hread : strFileread disk filename vsftpConfFileMax with
  | died text =>
      rw [hread] at h
      exact h
  | failed => rfl
  | text text =>
      rw [hread] at h
      refine ⟨h.1, fun line hline => ?_⟩
      have hline := h.2 line hline
      exact ⟨hline.length, hline.text, fun hfatal => Bool.noConfusion hfatal⟩

/-! ## What a variable holds -/

inductive Variable where
  | str (v : StrTunable)
  | bool (v : BoolTunable)
  | uint (v : UintTunable)
  deriving DecidableEq

def Variable.Value : Variable → Type
  | .str _ => Option Bytes
  | .bool _ => Bool
  | .uint _ => Nat

def Settings.get (t : Settings) : (x : Variable) → x.Value
  | .str v => t.str v
  | .bool v => t.bool v
  | .uint v => t.uint v

def Change.write : Change → Write Variable.Value
  | .str v value => ⟨.str v, value⟩
  | .bool v value => ⟨.bool v, value⟩
  | .uint v value => ⟨.uint v, value⟩

theorem settings_get_inj (h : t.get = t'.get) : t = t' := by
  rw [settings_ext_iff]
  refine ⟨funext fun v => ?_, funext fun v => ?_, funext fun v => ?_⟩
  · exact congrFun h (.str v)
  · exact congrFun h (.bool v)
  · exact congrFun h (.uint v)

theorem get_apply (c : Change) (t : Settings) :
    (c.apply t).get = Function.update t.get c.write.1 c.write.2 := by
  rw [Function.eq_update_iff]
  cases c with
  | str v value =>
      have hself : Function.update t.str v value v = value := Function.update_self v value t.str
      refine ⟨hself, fun x hx => ?_⟩
      cases x with
      | str w =>
          have hne : w ≠ v := fun h => hx (congrArg Variable.str h)
          exact Function.update_of_ne hne value t.str
      | bool w => rfl
      | uint w => rfl
  | bool v value =>
      have hself : Function.update t.bool v value v = value := Function.update_self v value t.bool
      refine ⟨hself, fun x hx => ?_⟩
      cases x with
      | str w => rfl
      | bool w =>
          have hne : w ≠ v := fun h => hx (congrArg Variable.bool h)
          exact Function.update_of_ne hne value t.bool
      | uint w => rfl
  | uint v value =>
      have hself : Function.update t.uint v value v = value := Function.update_self v value t.uint
      refine ⟨hself, fun x hx => ?_⟩
      cases x with
      | str w => rfl
      | bool w => rfl
      | uint w =>
          have hne : w ≠ v := fun h => hx (congrArg Variable.uint h)
          exact Function.update_of_ne hne value t.uint

theorem get_applyAll (changes : List Change) (t : Settings) :
    (applyAll changes t).get = writeAll (changes.map Change.write) t.get := by
  induction changes generalizing t with
  | nil => rfl
  | cons c changes ih =>
      show (applyAll changes (c.apply t)).get = _
      rw [ih, get_apply]
      rfl

/-- The value that the changes leave a variable with. -/
theorem get_applyAll_apply (changes : List Change) (t : Settings) (x : Variable) :
    (applyAll changes t).get x = (lastWrite (changes.map Change.write) x).getD (t.get x) := by
  rw [get_applyAll, writeAll_apply]

end Vsftpd.Parseconf
