import Vsftpd.Session.State
import Mathlib.Data.List.Sort
import Mathlib.Logic.Relation

/-!
# What a directory listing sends

`ls.c` and `transfer_dir_internal`.  A listing is a program over the state of the
connection it writes to; its events are the writes of the lines of a directory.
It ends with the process where an entry cannot be printed or a list has no more room.
-/

namespace Vsftpd.Session

open Vsftpd.Lib

def vsftpDirBufsize : Nat := 16384

def vsftpPathMax : Nat := 4096

/-! ## The directory tree -/

/-- What `lstat(2)` says of an entry, with the owner and the group as an `int` has them. -/
structure Lstat where
  mode : Nat
  nlink : Nat := 1
  uid : Int := 0
  gid : Int := 0
  size : Int := 0
  mtime : Int := 0
  deriving DecidableEq, Repr

/-- The type bits of a mode. -/
def Lstat.fileType (stat : Lstat) : Nat := stat.mode &&& 0o170000

def Lstat.isDir (stat : Lstat) : Bool := stat.fileType = 0o040000

def Lstat.isSymlink (stat : Lstat) : Bool := stat.fileType = 0o120000

/-- An open directory: the names that it yields, and whether others may read it. -/
structure Dir where
  entries : List Bytes
  readableOther : Bool
  deriving DecidableEq, Repr

/-- The file system that a listing goes through, with the databases of names.  A path
that does not fit into `PATH_MAX` with its end opens nothing. -/
structure DirTree extends PathEnv where
  lstat : Bytes → Option Lstat
  readlink : Bytes → Option Bytes
  opendir : Bytes → Option Dir
  getpwuid : Int → Option Bytes := fun _ => none
  getgrgid : Int → Option Bytes := fun _ => none
  /-- `strftime(3)` of a time, with the year or with the time of the day; none when it fails. -/
  strftime : (mtime : Int) → (useLocaltime withYear : Bool) → Option Bytes :=
    fun _ _ _ => some []
  tooLong : ∀ path, vsftpPathMax ≤ path.length → opendir path = none

/-- What a listing writes to, and the clock. -/
structure ListIo (V : Type) where
  write : Bytes → V → Bool × V
  timeSec : V → Int × V

/-- How the process ends while it lists a directory. -/
inductive LsFailure where
  | die (text : String)
  | bug (text : String)
  deriving DecidableEq, Repr

/-! ## Strings and lists -/

def strLpad (s : Bytes) (minWidth : Nat) : Bytes := List.replicate (minWidth - s.length) 32 ++ s

def strRpad (s : Bytes) (minWidth : Nat) : Bytes := s ++ List.replicate (minWidth - s.length) 32

def strStrcmp (s t : Bytes) : Ordering := compare s t

structure MystrListNode where
  str : Bytes
  sortKeyStr : Bytes := []
  deriving DecidableEq, Repr

def MystrListNode.cmpStr (node : MystrListNode) : Bytes :=
  if !strIsempty node.sortKeyStr then node.sortKeyStr else node.str

def sortCompareCommon (reverse : Bool) (p1 p2 : MystrListNode) : Ordering :=
  if reverse then strStrcmp p2.cmpStr p1.cmpStr else strStrcmp p1.cmpStr p2.cmpStr

def strListSort (list : List MystrListNode) (reverse : Bool) : List Bytes :=
  (list.insertionSort fun p1 p2 => (sortCompareCommon reverse p1 p2).isLE).map (·.str)

/-- `struct mystr_list` -/
structure MystrList where
  allocLen : Nat := 0
  nodes : List MystrListNode := []

def kMaxStrlist : Nat := 10 * 1000 * 1000

def MystrList.push (list : MystrList) (allocLen : Nat) (node : MystrListNode) : MystrList :=
  ⟨allocLen, list.nodes ++ [node]⟩

def strListAdd (list : MystrList) (node : MystrListNode) : Except LsFailure MystrList :=
  if list.nodes.length = list.allocLen then
    if list.allocLen = 0 then .ok (list.push 32 node)
    else if list.allocLen * 2 > kMaxStrlist then .error (.die "excessive strlist")
    else .ok (list.push (list.allocLen * 2) node)
  else .ok (list.push list.allocLen node)

/-! ## The line of an entry -/

def typeChar (fileType : Nat) : UInt8 :=
  match fileType with
  | 0o100000 => 45
  | 0o040000 => 100
  | 0o120000 => 108
  | 0o010000 => 112
  | 0o140000 => 115
  | 0o020000 => 99
  | 0o060000 => 98
  | _ => 63

def Lstat.has (stat : Lstat) (bit : Nat) : Bool := stat.mode &&& bit ≠ 0

def permChar (stat : Lstat) (bit : Nat) (c : UInt8) : UInt8 := if stat.has bit then c else 45

/-- The place of an execute bit, which shares it with a special bit. -/
def executeChar (stat : Lstat) (execute special : Nat) (lower upper : UInt8) : UInt8 :=
  if stat.has special then if stat.has execute then lower else upper
  else permChar stat execute 120

def vsfSysutilStatbufGetPerms (stat : Lstat) : Bytes :=
  [typeChar stat.fileType,
   permChar stat 0o400 114, permChar stat 0o200 119, executeChar stat 0o100 0o4000 115 83,
   permChar stat 0o040 114, permChar stat 0o020 119, executeChar stat 0o010 0o2000 115 83,
   permChar stat 0o004 114, permChar stat 0o002 119, executeChar stat 0o001 0o1000 116 84]

/-- `"%030ld"` -/
def vsfSysutilStatbufGetSortkeyMtime (stat : Lstat) : Bytes :=
  let digits := vsfSysutilUlongToStr stat.mtime.natAbs
  if stat.mtime < 0 then 45 :: (List.replicate (29 - digits.length) 48 ++ digits)
  else List.replicate (30 - digits.length) 48 ++ digits

section
variable (cfg : Tunables) (tree : DirTree)

/-- A date in the future or more than half a year ago is given with its year. -/
def vsfSysutilStatbufGetDate (stat : Lstat) (currTime : Int) : Except LsFailure Bytes :=
  match tree.strftime stat.mtime cfg.useLocaltime
      (stat.mtime > currTime ∨ currTime - stat.mtime > 60 * 60 * 24 * 182) with
  | none => .error (.die "strftime")
  | some date => .ok date

def vsfSysutilStatbufGetSize (stat : Lstat) : Except LsFailure Int :=
  if stat.size < 0 then .error (.die "invalid inode size in vsf_sysutil_statbuf_get_size")
  else .ok stat.size

/-- The owner or the group of an entry; one of them is looked up with a check of its own. -/
def idText (lookup : Int → Except LsFailure (Option Bytes)) (id : Int) : Except LsFailure Bytes :=
  if cfg.hideIds then .ok (bytes "ftp")
  else do
    let name ← if cfg.textUserdbNames then lookup id else .ok none
    return name.getD (vsfSysutilUlongToStr (id % 2 ^ 64).toNat)

def vsfSysutilGetpwuid (uid : Int) : Except LsFailure (Option Bytes) :=
  if uid < 0 then .error (.bug "negative uid in vsf_sysutil_getpwuid") else .ok (tree.getpwuid uid)

def vsfSysutilGetgrgid (gid : Int) : Except LsFailure (Option Bytes) :=
  if gid < 0 then .error (.die "negative gid in vsf_sysutil_getgrgid") else .ok (tree.getgrgid gid)

def buildDirLine (filename : Bytes) (stat : Lstat) (currTime : Int) : Except LsFailure Bytes := do
  let size ← vsfSysutilStatbufGetSize stat
  let user ← idText cfg (vsfSysutilGetpwuid tree) stat.uid
  let group ← idText cfg (vsfSysutilGetgrgid tree) stat.gid
  let date ← vsfSysutilStatbufGetDate cfg tree stat currTime
  return vsfSysutilStatbufGetPerms stat ++ [32]
    ++ strLpad (vsfSysutilUlongToStr stat.nlink) 4 ++ [32]
    ++ strRpad user 8 ++ [32]
    ++ strRpad group 8 ++ [32]
    ++ strLpad (vsfSysutilFilesizeTToStr size) 8 ++ [32]
    ++ date ++ [32]
    ++ filename ++ bytes "\r\n"

/-! ## The entries of a directory -/

def hasOption (option : Bytes) (c : UInt8) : Bool := (strLocateChar option c).isSome

/-- `p_subdir_list != 0` -/
def listsSubdirs (option : Bytes) : Bool := hasOption option 82 && cfg.lsRecurseEnable

structure LsOptions where
  aOption : Bool
  rOption : Bool
  tOption : Bool
  fOption : Bool
  isVerbose : Bool
  doStat : Bool

def lsOptions (option filter : Bytes) (isVerbose : Bool) : LsOptions :=
  let tOption := hasOption option 116
  let fOption := hasOption option 70
  let isVerbose := isVerbose || hasOption option 108
  { aOption := hasOption option 97 || filter.head? = some 46
    rOption := xor (hasOption option 114) tOption
    tOption := tOption
    fOption := fOption
    isVerbose := isVerbose
    doStat := isVerbose || tOption || fOption || listsSubdirs cfg option }

def normalisedBaseDir (baseDir : Bytes) : Bytes :=
  if baseDir = bytes "." ∨ baseDir = [] then []
  else if baseDir.getLast? = some slash then baseDir
  else baseDir ++ [slash]

/-- The entries that begin with a dot. -/
def dotSkipped (aOption : Bool) (name : Bytes) : Bool :=
  name.head? = some 46 &&
    (!aOption && !cfg.forceDotFiles || !aOption && (name = bytes ".." || name.length = 1))

def entryPasses (opts : LsOptions) (filter name : Bytes) : Bool :=
  !dotSkipped cfg opts.aOption name &&
    vsfAccessCheckFileVisible tree.toPathEnv cfg.hideFile name &&
    (strIsempty filter || (vsfFilenamePassesFilter tree.toPathEnv name filter 0).1)

/-- The name in a line with details. -/
def verboseName (opts : LsOptions) (name path : Bytes) (stat : Lstat) : Bytes :=
  name ++ (if stat.isSymlink then
      match tree.readlink path with
      | none => []
      | some target => if strIsempty target then [] else bytes " -> " ++ target
    else [])
    ++ if opts.fOption && stat.isDir then [slash] else []

def plainMark (opts : LsOptions) (stat : Lstat) : Bytes :=
  if opts.fOption then
    if stat.isDir then [slash] else if stat.isSymlink then bytes "@" else []
  else []

/-- The text that is listed of an entry. -/
def dirLine (opts : LsOptions) (currTime : Int) (name path : Bytes) (stat : Lstat) :
    Except LsFailure Bytes :=
  if opts.isVerbose then
    buildDirLine cfg tree (verboseName tree opts name path stat) stat currTime
  else .ok (path ++ plainMark opts stat ++ bytes "\r\n")

/-- The name of an entry that is a directory. -/
def subdirNode (opts : LsOptions) (name : Bytes) (stat : Lstat) : Option MystrListNode :=
  if stat.isDir then
    some ⟨name, if opts.tOption then vsfSysutilStatbufGetSortkeyMtime stat else []⟩
  else none

/-- What is listed of an entry, and its name when it is a directory. -/
structure LsEntry where
  line : MystrListNode
  subdir : Option MystrListNode

/-- An entry that was not asked about has no `stat`, and then nothing reads it. -/
def noStat : Lstat := ⟨0, 1, 0, 0, 0, 0⟩

def lsEntry (opts : LsOptions) (currTime : Int) (name path : Bytes) (stat : Lstat) :
    Except LsFailure LsEntry := do
  let line ← dirLine cfg tree opts currTime name path stat
  return ⟨⟨line, if opts.tOption then vsfSysutilStatbufGetSortkeyMtime stat else name⟩,
    subdirNode opts name stat⟩

/-- One turn of the loop over the entries; none for an entry that is passed over. -/
def lsStep (opts : LsOptions) (currTime : Int) (baseDir filter name : Bytes) :
    Option (Except LsFailure LsEntry) :=
  if !entryPasses cfg tree opts filter name then none
  else
    let path := normalisedBaseDir baseDir ++ name
    if opts.doStat then (tree.lstat path).map (lsEntry cfg tree opts currTime name path)
    else some (lsEntry cfg tree opts currTime name path noStat)

/-- The lines and the subdirectories so far. -/
structure DirLists where
  list : MystrList := {}
  subdirs : MystrList := {}

/-- An entry goes into the list of the lines and, where it belongs there, into the other. -/
def DirLists.add (lists : DirLists) (subdirList : Bool) (entry : LsEntry) :
    Except LsFailure DirLists := do
  let list ← strListAdd lists.list entry.line
  match entry.subdir with
  | none => return { lists with list := list }
  | some node =>
    if subdirList then do
      let subdirs ← strListAdd lists.subdirs node
      return ⟨list, subdirs⟩
    else return { lists with list := list }

/-- The loop over the entries. -/
def populateLoop (opts : LsOptions) (subdirList : Bool) (currTime : Int) (baseDir filter : Bytes) :
    List Bytes → DirLists → Except LsFailure DirLists
  | [], lists => .ok lists
  | name :: rest, lists =>
    match lsStep cfg tree opts currTime baseDir filter name with
    | none => populateLoop opts subdirList currTime baseDir filter rest lists
    | some listed => do
      let entry ← listed
      let lists ← lists.add subdirList entry
      populateLoop opts subdirList currTime baseDir filter rest lists

/-- The names that a directory yields. -/
def dirNames (dir : Dir) : List Bytes := dir.entries.takeWhile fun name => !strIsempty name

/-- The lines of a directory, and its subdirectories when they are asked for. -/
def vsfLsPopulateDirList (currTime : Int) (dir : Dir) (baseDir option filter : Bytes)
    (isVerbose : Bool) : Except LsFailure (List Bytes × List Bytes) := do
  let opts := lsOptions cfg option filter isVerbose
  let lists ← populateLoop cfg tree opts (listsSubdirs cfg option) currTime baseDir filter
    (dirNames dir) {}
  return (strListSort lists.list.nodes opts.rOption,
    if listsSubdirs cfg option then strListSort lists.subdirs.nodes opts.rOption else [])

end

/-! ## The listing -/

/-- Lines of a directory that are written to the client. -/
structure Emitted where
  path : Bytes
  dir : Dir
  text : Bytes

inductive ListHalt where
  | failed (failure : LsFailure)
  | tooDeep
  deriving DecidableEq, Repr

abbrev Listing (V : Type) := Prog Emitted V ListHalt

section
variable {V : Type} (cfg : Tunables) (tree : DirTree) (io : ListIo V)

def orHalt {α : Type} : Except LsFailure α → Listing V α
  | .ok a => pure a
  | .error failure => Prog.halt (.failed failure)

def ftpWriteStr (text : Bytes) : Listing V Bool := do
  let v ← Prog.get
  Prog.modify fun _ => (io.write text v).2
  pure (io.write text v).1

/-- The write of what is in the buffer of `write_dir_list`. -/
def writeLines (path : Bytes) (dir : Dir) (text : Bytes) : Listing V Bool :=
  Prog.emit (fun _ => ⟨path, dir, text⟩) (io.write text)

/-- The last line is in the buffer, or the next one does not fit. -/
def writeoutNeeded (buf : Bytes) (rest : List Bytes) : Bool :=
  match rest with
  | [] => true
  | next :: _ => buf.length + next.length > vsftpDirBufsize

/-- The loop of `write_dir_list`; true when it failed. -/
def writeDirList (path : Bytes) (dir : Dir) : Bytes → List Bytes → Listing V Bool
  | _, [] => pure false
  | buf, line :: rest =>
    if writeoutNeeded (buf ++ line) rest then do
      let ok ← writeLines io path dir (buf ++ line)
      if ok then writeDirList path dir [] rest else pure true
    else writeDirList path dir (buf ++ line) rest

/-- One subdirectory, set off by an empty line. -/
def enterSubdir (visit : Listing V Bool) : Listing V Bool := do
  let ok ← ftpWriteStr io (bytes "\r\n")
  if ok then visit else pure true

/-- The recursion into the subdirectories. -/
def subdirLoop (visit : Bytes → Dir → Listing V Bool) (baseDir : Bytes) :
    List Bytes → Listing V Bool
  | [] => pure false
  | name :: rest =>
    if name = bytes "." ∨ name = bytes ".." then subdirLoop visit baseDir rest
    else
      match tree.opendir (baseDir ++ [slash] ++ name) with
      | none => subdirLoop visit baseDir rest
      | some subdir => do
        let failed ← enterSubdir io (visit (baseDir ++ [slash] ++ name) subdir)
        if failed then pure true else subdirLoop visit baseDir rest

/-- The name of the directory stands before its lines when subdirectories follow. -/
def writeDirPrefix (option baseDir : Bytes) : Listing V Bool :=
  if listsSubdirs cfg option then ftpWriteStr io (baseDir ++ bytes ":\r\n") else pure true

/-- `curr_time`, which only lines with details need. -/
def listTime (isVerbose : Bool) : Listing V Int :=
  if isVerbose then do
    let v ← Prog.get
    Prog.modify fun _ => (io.timeSec v).2
    pure (io.timeSec v).1
  else pure 0

/-- The directories that are open at a time are at most `depth`; true when it failed. -/
def transferDirInternal (option filter : Bytes) (isVerbose : Bool) :
    (depth : Nat) → Bytes → Dir → Listing V Bool
  | 0, _, _ => Prog.halt .tooDeep
  | depth + 1, baseDir, dir => do
    let currTime ← listTime io (lsOptions cfg option filter isVerbose).isVerbose
    let lists ← orHalt
      (vsfLsPopulateDirList cfg tree currTime dir baseDir option filter isVerbose)
    let ok ← writeDirPrefix cfg io option baseDir
    if !ok then pure true
    else do
      let failed ← writeDirList io baseDir dir [] lists.1
      if failed then pure true
      else subdirLoop tree io (transferDirInternal option filter isVerbose depth) baseDir lists.2

/-- Paths grow by the recursion, so it is never deeper than a path is long. -/
def transferDir (baseDir : Bytes) (dir : Dir) (option filter : Bytes) (isVerbose : Bool) :
    Listing V Bool :=
  transferDirInternal cfg tree io option filter isVerbose vsftpPathMax baseDir dir

end

end Vsftpd.Session
