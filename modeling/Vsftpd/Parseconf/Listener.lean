import Vsftpd.Parseconf.LoadFile

/-!
# The settings of the listener

The arguments of `main`, which are files and options in any order, and SIGHUP, which loads the
last of the files again over the defaults.
-/

namespace Vsftpd.Parseconf

open Vsftpd.Lib

/-! ## The code -/

def vsftpDefaultConfig : Bytes := bytes "/etc/vsftpd.conf"

/-- An argument, and the file system when its turn comes. -/
structure Argument where
  text : Bytes
  disk : Disk

/-- Any argument not starting with "-". -/
def isConfigFile (arg : Argument) : Bool := arg.text.head? ≠ some 45

def loadOption (setting : Bytes) (conf : Conf) : Except Halt Conf := do
  let settings ← stopped (vsfParseconfLoadSetting setting true conf.settings)
  return ⟨settings, conf.savedFilename⟩

def loadArgument (arg : Argument) (conf : Conf) : Except Halt Conf :=
  match arg.text with
  | 45 :: 118 :: _ => .error (.exit (bytes "vsftpd: version 3.0.3\n"))
  | 45 :: 111 :: setting => loadOption setting conf
  | 45 :: rest => .error (.die (bytes "unrecognise option: " ++ 45 :: rest))
  | filename => vsfParseconfLoadFile arg.disk (some filename) true conf

def loadArguments : List Argument → Conf → Except Halt Conf
  | [], conf => .ok conf
  | arg :: args, conf => do
    let conf ← loadArgument arg conf
    loadArguments args conf

/-- The default file, when it is there. -/
def loadDefaultConfig (disk : Disk) (conf : Conf) : Except Halt Conf :=
  match disk.stat vsftpDefaultConfig with
  | .found _ => vsfParseconfLoadFile disk (some vsftpDefaultConfig) true conf
  | _ => .ok conf

/-- `main` until the configuration is loaded; `disk` is the file system after the arguments. -/
def loadConfiguration (argv : List Argument) (disk : Disk) : Except Halt Conf :=
  match argv with
  | [] => .error (.die (bytes "vsftpd: missing argv[0]"))
  | _ :: args => do
    let conf ← loadArguments args ⟨tunablesLoadDefaults, none⟩
    if args.any isConfigFile then return conf else loadDefaultConfig disk conf

/-- What `gethostbyname` finds for a name; an address is in its numeric form. -/
inductive HostEntry where
  | address (numeric : Bytes)
  | otherFamily
  | notFound

/-- "Resolve pasv_address if required". -/
def resolvePasvAddress (gethostbyname : Bytes → HostEntry) (conf : Conf) : Except Halt Conf :=
  match conf.settings.str .pasvAddress with
  | none => .ok conf
  | some name =>
    if conf.settings.bool .pasvAddrResolve then
      match gethostbyname name with
      | .notFound => .error (.die (bytes "cannot resolve host:" ++ name))
      | .otherFamily => .error (.die (bytes "gethostbyname(): neither IPv4 nor IPv6"))
      | .address numeric =>
        .ok { conf with settings := conf.settings.setStr .pasvAddress (some numeric) }
    else .ok conf

/-- The configuration that the server goes on with. -/
def startConfiguration (gethostbyname : Bytes → HostEntry) (argv : List Argument) (disk : Disk) :
    Except Halt Conf := do
  let conf ← loadConfiguration argv disk
  resolvePasvAddress gethostbyname conf

def handleSighup (disk : Disk) (conf : Conf) : Except Halt Conf :=
  vsfParseconfLoadFile disk none false ⟨tunablesLoadDefaults, conf.savedFilename⟩

/-- One signal after the other, each with the file system at that time. -/
def handleSighups : List Disk → Conf → Except Halt Conf
  | [], conf => .ok conf
  | disk :: disks, conf => do
    let conf ← handleSighup disk conf
    handleSighups disks conf

/-! ## What the arguments write -/

/-- An argument that does not end the process. -/
def Argument.Ok (arg : Argument) : Prop :=
  match arg.text with
  | 45 :: 118 :: _ => False
  | 45 :: 111 :: setting => LineOk true setting
  | 45 :: _ => False
  | filename => FileOk arg.disk true filename

def Argument.writes (arg : Argument) : List Change :=
  match arg.text with
  | 45 :: 118 :: _ => []
  | 45 :: 111 :: setting => (lineWrite setting).toList
  | 45 :: _ => []
  | filename => fileWrites arg.disk filename

/-- The last of the files. -/
def lastFile (args : List Argument) : Option Bytes :=
  ((args.filter isConfigFile).map Argument.text).getLast?

/-- The arguments, and the default file if no file is among them and it is there. -/
def sources (args : List Argument) (disk : Disk) : List Argument :=
  match args.any isConfigFile, disk.stat vsftpDefaultConfig with
  | false, .found _ => args ++ [⟨vsftpDefaultConfig, disk⟩]
  | _, _ => args

variable {arg : Argument} {args argv : List Argument} {disk : Disk} {conf conf' : Conf}
  {setting : Bytes}

theorem loadOption_ok_iff :
    loadOption setting conf = .ok conf' ↔
      LineOk true setting ∧
        conf' = ⟨applyAll (lineWrite setting).toList conf.settings, conf.savedFilename⟩ := by
  unfold loadOption
  rw [bind_eq_ok_iff, applyAll_toList]
  constructor
  · rintro ⟨t, ht, hconf⟩
    obtain ⟨hline, rfl⟩ := loadSetting_ok_iff.mp (stopped_ok_iff.mp ht)
    exact ⟨hline, (Except.ok.inj hconf).symm⟩
  · rintro ⟨hline, rfl⟩
    exact ⟨_, stopped_ok_iff.mpr (loadSetting_ok_iff.mpr ⟨hline, rfl⟩), rfl⟩

theorem lastFile_cons (arg : Argument) (args : List Argument) :
    lastFile (arg :: args) =
      (lastFile args).or (if isConfigFile arg then some arg.text else none) := by
  unfold lastFile
  rw [List.filter_cons]
  by_cases hfile : isConfigFile arg = true
  · rw [if_pos hfile, if_pos hfile, List.map_cons, List.getLast?_cons]
    cases ((args.filter isConfigFile).map Argument.text).getLast? <;> rfl
  · rw [if_neg hfile, if_neg hfile, Option.or_none]

theorem isConfigFile_of_ne (h : ∀ rest, arg.text ≠ 45 :: rest) : isConfigFile arg = true := by
  unfold isConfigFile
  apply decide_eq_true
  intro hhead
  obtain ⟨rest, hrest⟩ := List.head?_eq_some_iff.mp hhead
  exact h rest hrest

theorem loadArgument_ok_iff :
    loadArgument arg conf = .ok conf' ↔ arg.Ok ∧
      conf' = ⟨applyAll arg.writes conf.settings,
        (if isConfigFile arg then some arg.text else none).or conf.savedFilename⟩ := by
  obtain ⟨text, disk⟩ := arg
  unfold loadArgument Argument.Ok Argument.writes
  dsimp only
  split
  · exact iff_of_false (fun h => by cases h) fun h => h.1
  · exact loadOption_ok_iff
  · exact iff_of_false (fun h => by cases h) fun h => h.1
  · rename_i hrest
    have hfile : isConfigFile ⟨text, disk⟩ = true := isConfigFile_of_ne hrest
    rw [loadFile_ok_iff, if_pos hfile]
    constructor
    · rintro ⟨filename, hname, hok, hconf⟩
      obtain rfl : text = filename := Option.some.inj hname
      exact ⟨hok, hconf⟩
    · exact fun h => ⟨text, rfl, h⟩

theorem loadArguments_ok_iff :
    loadArguments args conf = .ok conf' ↔ (∀ arg ∈ args, arg.Ok) ∧
      conf' = ⟨applyAll (args.flatMap Argument.writes) conf.settings,
        (lastFile args).or conf.savedFilename⟩ := by
  induction args generalizing conf with
  | nil =>
      show Except.ok conf = .ok conf' ↔ _ ∧ conf' = conf
      rw [Except.ok.injEq, eq_comm]
      exact ⟨fun h => ⟨fun arg harg => absurd harg List.not_mem_nil, h⟩, fun h => h.2⟩
  | cons arg args ih =>
      rw [loadArguments, bind_eq_ok_iff]
      simp only [loadArgument_ok_iff, ih]
      rw [List.forall_mem_cons, List.flatMap_cons, applyAll_append, lastFile_cons,
        Option.or_assoc]
      constructor
      · rintro ⟨conf₁, ⟨harg, rfl⟩, hargs, hconf⟩
        exact ⟨⟨harg, hargs⟩, hconf⟩
      · rintro ⟨⟨harg, hargs⟩, hconf⟩
        exact ⟨_, ⟨harg, rfl⟩, hargs, hconf⟩

theorem loadArguments_append (args more : List Argument) (conf : Conf) :
    loadArguments (args ++ more) conf = (do
      let conf ← loadArguments args conf
      loadArguments more conf) := by
  induction args generalizing conf with
  | nil => rfl
  | cons arg args ih =>
      rw [List.cons_append, loadArguments, loadArguments]
      cases loadArgument arg conf with
      | ok conf₁ => exact ih conf₁
      | error e => rfl

/-- The default file is loaded like an argument. -/
theorem loadConfiguration_eq (arg : Argument) (args : List Argument) (disk : Disk) :
    loadConfiguration (arg :: args) disk =
      loadArguments (sources args disk) ⟨tunablesLoadDefaults, none⟩ := by
  unfold loadConfiguration sources
  dsimp only
  cases args.any isConfigFile with
  | true => cases loadArguments args ⟨tunablesLoadDefaults, none⟩ <;> rfl
  | false =>
      simp only [Bool.false_eq_true, if_false]
      unfold loadDefaultConfig
      cases disk.stat vsftpDefaultConfig with
      | noent => cases loadArguments args ⟨tunablesLoadDefaults, none⟩ <;> rfl
      | failed => cases loadArguments args ⟨tunablesLoadDefaults, none⟩ <;> rfl
      | found statbuf =>
          dsimp only
          rw [loadArguments_append]
          cases loadArguments args ⟨tunablesLoadDefaults, none⟩ with
          | error e => rfl
          | ok conf =>
              have hload : loadArgument ⟨vsftpDefaultConfig, disk⟩ conf =
                  vsfParseconfLoadFile disk (some vsftpDefaultConfig) true conf := rfl
              rw [ok_bind, ok_bind, loadArguments, hload]
              cases vsfParseconfLoadFile disk (some vsftpDefaultConfig) true conf <;> rfl

theorem conf_ext {changes : List Change} {filename : Option Bytes}
    (hname : conf.savedFilename = filename)
    (hget : ∀ x, conf.settings.get x =
      (lastWrite (changes.map Change.write) x).getD (tunablesLoadDefaults.get x)) :
    conf = ⟨applyAll changes tunablesLoadDefaults, filename⟩ := by
  obtain ⟨t, saved⟩ := conf
  obtain rfl : saved = filename := hname
  have ht : t = applyAll changes tunablesLoadDefaults := by
    apply settings_get_inj
    funext x
    rw [get_applyAll_apply]
    exact hget x
  rw [ht]

/-- The server is configured exactly when it is called with a name and every file and option is
in order.  Then each variable has the value that was written to it last, in the order of the
arguments, or its default, and the file that a reload is made from is the last one. -/
theorem loadConfiguration_lastWins (argv : List Argument) (disk : Disk) (conf : Conf) :
    loadConfiguration argv disk = .ok conf ↔
      argv ≠ [] ∧ (∀ source ∈ sources argv.tail disk, source.Ok) ∧
        conf.savedFilename = lastFile (sources argv.tail disk) ∧
        ∀ x, conf.settings.get x = (lastWrite (((sources argv.tail disk).flatMap
          Argument.writes).map Change.write) x).getD (tunablesLoadDefaults.get x) := by
  cases argv with
  | nil => exact iff_of_false (fun h => by cases h) fun h => h.1 rfl
  | cons arg args =>
      rw [loadConfiguration_eq, loadArguments_ok_iff, List.tail_cons, Option.or_none]
      constructor
      · rintro ⟨hok, rfl⟩
        exact ⟨List.cons_ne_nil arg args, hok, rfl, get_applyAll_apply _ _⟩
      · rintro ⟨-, hok, hname, hget⟩
        exact ⟨hok, conf_ext hname hget⟩

/-! ## Reloads -/

theorem handleSighup_ok_iff :
    handleSighup disk conf = .ok conf' ↔ ∃ filename, conf.savedFilename = some filename ∧
      FileOk disk false filename ∧
        conf' = ⟨applyAll (fileWrites disk filename) tunablesLoadDefaults, some filename⟩ := by
  unfold handleSighup
  rw [loadFile_ok_iff]
  rfl

theorem handleSighups_append {disks more : List Disk} :
    handleSighups (disks ++ more) conf = .ok conf' ↔
      ∃ conf₁, handleSighups disks conf = .ok conf₁ ∧ handleSighups more conf₁ = .ok conf' := by
  induction disks generalizing conf with
  | nil =>
      constructor
      · exact fun h => ⟨conf, rfl, h⟩
      · rintro ⟨conf₁, hconf, h⟩
        rw [Except.ok.inj hconf]
        exact h
  | cons d disks ih =>
      rw [List.cons_append, handleSighups, handleSighups]
      cases handleSighup d conf with
      | error e =>
          refine iff_of_false (fun h => by cases h) ?_
          rintro ⟨conf₁, hconf, -⟩
          cases hconf
      | ok conf₂ => exact ih

/-- The listener remembers its file. -/
theorem savedFilename_handleSighups {disks : List Disk}
    (h : handleSighups disks conf = .ok conf') : conf'.savedFilename = conf.savedFilename := by
  induction disks generalizing conf with
  | nil => rw [Except.ok.inj h]
  | cons d disks ih =>
      obtain ⟨conf₁, hone, hrest⟩ := bind_eq_ok h
      obtain ⟨filename, hsaved, -, rfl⟩ := handleSighup_ok_iff.mp hone
      rw [ih hrest, hsaved]

theorem handleSighups_ok_iff {disks : List Disk} {filename : Bytes}
    (hsaved : conf.savedFilename = some filename) :
    (∃ conf₁, handleSighups disks conf = .ok conf₁) ↔
      ∀ disk ∈ disks, FileOk disk false filename := by
  induction disks generalizing conf with
  | nil =>
      apply iff_of_true
      · exact ⟨conf, rfl⟩
      · exact fun disk hdisk => absurd hdisk List.not_mem_nil
  | cons d disks ih =>
      rw [List.forall_mem_cons, handleSighups]
      by_cases hok : FileOk d false filename
      · have hone : handleSighup d conf = .ok
            ⟨applyAll (fileWrites d filename) tunablesLoadDefaults, some filename⟩ :=
          handleSighup_ok_iff.mpr ⟨filename, hsaved, hok, rfl⟩
        rw [hone, ok_bind, and_iff_right hok]
        exact ih rfl
      · refine iff_of_false ?_ fun h => hok h.1
        rintro ⟨conf₁, hrun⟩
        obtain ⟨conf₂, hone, -⟩ := bind_eq_ok hrun
        obtain ⟨other, hother, hokOther, -⟩ := handleSighup_ok_iff.mp hone
        obtain rfl : filename = other := Option.some.inj (hsaved.symm.trans hother)
        exact hok hokOther

/-- Only the last reload counts. -/
theorem handleSighups_last {disks : List Disk} :
    handleSighups (disks ++ [disk]) conf = .ok conf' ↔
      ∃ filename, conf.savedFilename = some filename ∧
        (∀ d ∈ disks ++ [disk], FileOk d false filename) ∧
        conf' = ⟨applyAll (fileWrites disk filename) tunablesLoadDefaults, some filename⟩ := by
  have hlast (conf₁ : Conf) : handleSighups [disk] conf₁ = handleSighup disk conf₁ := by
    rw [handleSighups]
    cases handleSighup disk conf₁ <;> rfl
  rw [handleSighups_append]
  simp only [hlast, handleSighup_ok_iff, List.forall_mem_append, List.forall_mem_singleton]
  constructor
  · rintro ⟨conf₁, hrun, filename, hsaved₁, hok, hconf⟩
    have hsaved : conf.savedFilename = some filename :=
      (savedFilename_handleSighups hrun).symm.trans hsaved₁
    exact ⟨filename, hsaved, ⟨(handleSighups_ok_iff hsaved).mp ⟨conf₁, hrun⟩, hok⟩, hconf⟩
  · rintro ⟨filename, hsaved, ⟨hdisks, hok⟩, hconf⟩
    obtain ⟨conf₁, hrun⟩ := (handleSighups_ok_iff hsaved).mpr hdisks
    exact ⟨conf₁, hrun, filename, (savedFilename_handleSighups hrun).trans hsaved, hok, hconf⟩

/-- What is loaded by its name is not an option. -/
theorem isConfigFile_of_lastFile {filename : Bytes} (h : lastFile args = some filename)
    (disk : Disk) : isConfigFile ⟨filename, disk⟩ = true := by
  obtain ⟨arg, harg, rfl⟩ := List.mem_map.mp (List.mem_of_getLast? h)
  exact (List.mem_filter.mp harg).2

/-- A server that is started with one file only. -/
theorem loadConfiguration_one {filename : Bytes} {program : Argument} {disk' : Disk}
    (hfile : isConfigFile ⟨filename, disk⟩ = true) :
    loadConfiguration [program, ⟨filename, disk⟩] disk' = .ok conf ↔
      FileOk disk true filename ∧
        conf = ⟨applyAll (fileWrites disk filename) tunablesLoadDefaults, some filename⟩ := by
  have hload : loadArgument ⟨filename, disk⟩ ⟨tunablesLoadDefaults, none⟩ =
      vsfParseconfLoadFile disk (some filename) true ⟨tunablesLoadDefaults, none⟩ := by
    unfold loadArgument
    unfold isConfigFile at hfile
    dsimp only at hfile ⊢
    split
    · exact absurd rfl (of_decide_eq_true hfile)
    · exact absurd rfl (of_decide_eq_true hfile)
    · exact absurd rfl (of_decide_eq_true hfile)
    · rfl
  have hsources : sources [⟨filename, disk⟩] disk' = [⟨filename, disk⟩] := by
    unfold sources
    rw [List.any_cons, hfile]
    rfl
  have hone : loadArguments [⟨filename, disk⟩] ⟨tunablesLoadDefaults, none⟩ =
      vsfParseconfLoadFile disk (some filename) true ⟨tunablesLoadDefaults, none⟩ := by
    rw [loadArguments, hload]
    cases vsfParseconfLoadFile disk (some filename) true ⟨tunablesLoadDefaults, none⟩ <;> rfl
  rw [loadConfiguration_eq, hsources, hone, loadFile_ok_iff]
  constructor
  · rintro ⟨other, hname, hconf⟩
    obtain rfl : filename = other := Option.some.inj hname
    exact hconf
  · exact fun h => ⟨filename, rfl, h⟩

theorem resolvePasvAddress_savedFilename {gethostbyname : Bytes → HostEntry}
    (h : resolvePasvAddress gethostbyname conf = .ok conf') :
    conf'.savedFilename = conf.savedFilename := by
  unfold resolvePasvAddress at h
  cases haddress : conf.settings.str .pasvAddress with
  | none =>
      rw [haddress] at h
      rw [Except.ok.inj h]
  | some name =>
      rw [haddress] at h
      dsimp only at h
      split_ifs at h
      · cases hhost : gethostbyname name with
        | address numeric =>
            rw [hhost] at h
            rw [← Except.ok.inj h]
        | otherFamily =>
            rw [hhost] at h
            cases h
        | notFound =>
            rw [hhost] at h
            cases h
      · rw [Except.ok.inj h]

/-- Whatever the arguments were and whatever was in the files before: after a SIGHUP each
variable has the value that the last file gives it now, or its default.  The listener lives on
exactly when there is such a file and at every SIGHUP the file was in order, in which lines that
name no variable or give no value are passed over.  A server that is started with that file alone
differs from it in the resolved `pasv_address` only. -/
theorem handleSighups_restart (gethostbyname : Bytes → HostEntry) (argv : List Argument)
    (disk₀ : Disk) (conf₀ : Conf) (hstart : startConfiguration gethostbyname argv disk₀ = .ok conf₀)
    (disks : List Disk) (disk : Disk) :
    (∀ conf, handleSighups (disks ++ [disk]) conf₀ = .ok conf ↔
      ∃ filename, conf₀.savedFilename = some filename ∧
        (∀ d ∈ disks ++ [disk], FileOk d false filename) ∧ conf.savedFilename = some filename ∧
        ∀ x, conf.settings.get x =
          (lastWrite ((fileWrites disk filename).map Change.write) x).getD
            (tunablesLoadDefaults.get x)) ∧
      ∀ gethostbyname' filename program disk' restarted, conf₀.savedFilename = some filename →
        (∀ d ∈ disks, FileOk d false filename) →
        startConfiguration gethostbyname' [program, ⟨filename, disk⟩] disk' = .ok restarted →
        ∃ conf, handleSighups (disks ++ [disk]) conf₀ = .ok conf ∧
          resolvePasvAddress gethostbyname' conf = .ok restarted := by
  obtain ⟨loaded, hloaded, hresolved⟩ := bind_eq_ok hstart
  refine ⟨fun conf => ?_, fun _ filename program disk' restarted hsaved hdisks hone => ?_⟩
  · rw [handleSighups_last]
    constructor
    · rintro ⟨filename, hsaved, hok, rfl⟩
      exact ⟨filename, hsaved, hok, rfl, get_applyAll_apply _ _⟩
    · rintro ⟨filename, hsaved, hok, hsavedNow, hget⟩
      exact ⟨filename, hsaved, hok, conf_ext hsavedNow hget⟩
  · cases argv with
    | nil => cases hloaded
    | cons arg args =>
        have hname : lastFile (sources args disk₀) = some filename := by
          rw [loadConfiguration_eq] at hloaded
          rw [resolvePasvAddress_savedFilename hresolved, (loadArguments_ok_iff.mp hloaded).2,
            Option.or_none] at hsaved
          exact hsaved
        have hfile := isConfigFile_of_lastFile hname disk
        obtain ⟨conf, hconf, hrestarted⟩ := bind_eq_ok hone
        obtain ⟨hok, hsame⟩ := (loadConfiguration_one hfile).mp hconf
        refine ⟨conf, handleSighups_last.mpr ⟨filename, hsaved, fun d hd => ?_, hsame⟩, hrestarted⟩
        rcases List.mem_append.mp hd with hd | hd
        · exact hdisks d hd
        · rw [List.mem_singleton.mp hd]
          exact hok.lenient

/-! ### A listener whose file is edited -/

/-- One file, owned by the superuser. -/
def diskWith (text : String) : Disk where
  read := fun _ => .text (bytes text)
  stat := fun _ => .found ⟨0, true⟩
  getuid := 0

/-- A file, and an option that is forgotten. -/
def startedWith : List Argument :=
  [⟨bytes "vsftpd", diskWith ""⟩, ⟨bytes "a.conf", diskWith "ftp_username=bob\n"⟩,
    ⟨bytes "-osecure_chroot_dir=/a", diskWith ""⟩]

def startedConf : Conf :=
  ⟨applyAll (startedWith.tail.flatMap Argument.writes) tunablesLoadDefaults,
    some (bytes "a.conf")⟩

def loopback (_ : Bytes) : HostEntry := .address (bytes "127.0.0.1")

theorem startedConf_started :
    startConfiguration loopback startedWith (diskWith "") = .ok startedConf := by
  have hok : ∀ arg ∈ startedWith.tail, arg.Ok := by
    intro arg harg
    rcases List.mem_cons.mp harg with rfl | harg
    · have hfile : FileOk (diskWith "ftp_username=bob\n") true (bytes "a.conf") := by
        decide +kernel
      exact hfile
    · rw [List.mem_singleton.mp harg]
      have hline : LineOk true (bytes "secure_chroot_dir=/a") := by decide +kernel
      exact hline
  have hsources : sources startedWith.tail (diskWith "") = startedWith.tail := rfl
  have hargs := loadConfiguration_eq ⟨bytes "vsftpd", diskWith ""⟩ startedWith.tail (diskWith "")
  rw [hsources] at hargs
  have hloaded : loadConfiguration startedWith (diskWith "") = .ok startedConf :=
    hargs.trans (loadArguments_ok_iff.mpr ⟨hok, rfl⟩)
  have haddress : startedConf.settings.str .pasvAddress = none := by decide +kernel
  rw [startConfiguration, hloaded, ok_bind, resolvePasvAddress, haddress]

/-- The file after an edit. -/
def edited : Disk :=
  diskWith "# Alice\nftp_username=alice\npasv_addr_resolve=YES\npasv_address=localhost\n"

def editedConf : Conf :=
  ⟨applyAll (fileWrites edited (bytes "a.conf")) tunablesLoadDefaults, some (bytes "a.conf")⟩

theorem handleSighups_restart_edited :
    handleSighups [edited] startedConf = .ok editedConf ∧
      editedConf.settings.str .ftpUsername = some (bytes "alice") ∧
      editedConf.settings.str .pasvAddress = some (bytes "localhost") ∧
      startedConf.settings.str .secureChrootDir = some (bytes "/a") ∧
      editedConf.settings.str .secureChrootDir = defaultStr .secureChrootDir := by
  have hok : ∀ d ∈ [] ++ [edited], FileOk d false (bytes "a.conf") := by
    intro d hd
    rw [List.mem_singleton.mp hd]
    decide +kernel
  have hget (x : Variable) : editedConf.settings.get x =
      (lastWrite ((fileWrites edited (bytes "a.conf")).map Change.write) x).getD
        (tunablesLoadDefaults.get x) :=
    get_applyAll_apply (fileWrites edited (bytes "a.conf")) tunablesLoadDefaults x
  have hrun := handleSighups_restart loopback startedWith (diskWith "") startedConf
    startedConf_started [] edited
  refine ⟨(hrun.1 editedConf).mpr ⟨bytes "a.conf", rfl, hok, rfl, hget⟩, ?_⟩
  decide +kernel

end Vsftpd.Parseconf
