import Vsftpd.Lib.ExceptRules
import Vsftpd.Session.DirListing

/-!
# What a listing is made of

`str_list_add` doubles the room of a list that is full, up to `kMaxStrlist`, and an entry can
be printed when its size, its owner, its group and its date can.  Where there is room and
every entry can be printed, the lists are those of the entries.
-/

namespace Vsftpd.Session

open Vsftpd.Lib

/-! ## Room -/

/-- The most nodes that there is room for: 32, doubled while it is not too much. -/
def maxNodes : Nat := 8388608

/-- The room is a power of two times 32, and the nodes are in it. -/
def MystrList.Roomy (list : MystrList) : Prop :=
  (list.allocLen = 0 ∧ list.nodes = []) ∨
    ∃ j ≤ 18, list.allocLen = 32 * 2 ^ j ∧ list.nodes.length ≤ list.allocLen

theorem MystrList.roomy_empty : MystrList.Roomy {} := .inl ⟨rfl, rfl⟩

theorem MystrList.length_push (list : MystrList) (allocLen : Nat) (node : MystrListNode) :
    (list.push allocLen node).nodes.length = list.nodes.length + 1 := by
  unfold MystrList.push
  rw [List.length_append, List.length_singleton]

/-- A node is added unless there are as many as can be. -/
theorem strListAdd_spec {list : MystrList} (h : list.Roomy) (node : MystrListNode) :
    if list.nodes.length < maxNodes then
      ∃ list', strListAdd list node = .ok list' ∧ list'.nodes = list.nodes ++ [node] ∧ list'.Roomy
    else strListAdd list node = .error (.die "excessive strlist") := by
  unfold strListAdd
  rcases h with ⟨halloc, hnil⟩ | ⟨j, hj, halloc, hlen⟩
  · have hempty : list.nodes.length = 0 := by rw [hnil, List.length_nil]
    have hroom : list.nodes.length < maxNodes := by rw [hempty]; decide
    have hfull : list.nodes.length = list.allocLen := by rw [hempty, halloc]
    rw [if_pos hroom, if_pos hfull, if_pos halloc]
    refine ⟨_, rfl, rfl, .inr ⟨0, by decide, rfl, ?_⟩⟩
    rw [MystrList.length_push, hempty]
    show 0 + 1 ≤ 32
    decide
  have hpos : 0 < 2 ^ j := Nat.two_pow_pos j
  have halloc0 : list.allocLen ≠ 0 := by omega
  by_cases hfull : list.nodes.length = list.allocLen
  · rw [if_pos hfull, if_neg halloc0]
    by_cases hlast : j = 18
    · have hmost : list.allocLen = maxNodes := by rw [halloc, hlast]; decide
      rw [if_neg (by omega), if_pos (by rw [hmost]; decide)]
    · have hpow : 2 ^ (j + 1) ≤ 2 ^ 18 := Nat.pow_le_pow_right (by decide) (by omega)
      rw [Nat.pow_succ] at hpow
      have hroom : list.nodes.length < maxNodes := by
        unfold maxNodes
        omega
      have hmore : ¬ list.allocLen * 2 > kMaxStrlist := by
        unfold kMaxStrlist
        omega
      rw [if_pos hroom, if_neg hmore]
      refine ⟨_, rfl, rfl, .inr ⟨j + 1, by omega, ?_, ?_⟩⟩
      · show list.allocLen * 2 = 32 * 2 ^ (j + 1)
        rw [halloc, Nat.pow_succ, Nat.mul_assoc]
      · rw [MystrList.length_push]
        show list.nodes.length + 1 ≤ list.allocLen * 2
        omega
  · have hpow : 2 ^ j ≤ 2 ^ 18 := Nat.pow_le_pow_right (by decide) hj
    have hroom : list.nodes.length < maxNodes := by
      unfold maxNodes
      omega
    rw [if_neg hfull, if_pos hroom]
    refine ⟨_, rfl, rfl, .inr ⟨j, hj, halloc, ?_⟩⟩
    rw [MystrList.length_push]
    show list.nodes.length + 1 ≤ list.allocLen
    omega

/-- What has been put into the lists. -/
structure DirLists.Holds (lists : DirLists) (lines subdirs : List MystrListNode) : Prop where
  list : lists.list.nodes = lines
  subdirs : lists.subdirs.nodes = subdirs
  roomyList : lists.list.Roomy
  roomySubdirs : lists.subdirs.Roomy

theorem DirLists.holds_empty : DirLists.Holds {} [] [] :=
  ⟨rfl, rfl, MystrList.roomy_empty, MystrList.roomy_empty⟩

/-- There are no more subdirectories than lines, so that it is the lines that run out. -/
theorem DirLists.Holds.add {lists : DirLists} {lines subdirs : List MystrListNode}
    (h : lists.Holds lines subdirs) (hle : subdirs.length ≤ lines.length) (subdirList : Bool)
    (entry : LsEntry) :
    if lines.length < maxNodes then
      ∃ lists', lists.add subdirList entry = .ok lists' ∧
        lists'.Holds (lines ++ [entry.line])
          (subdirs ++ if subdirList then entry.subdir.toList else [])
    else lists.add subdirList entry = .error (.die "excessive strlist") := by
  have hline := strListAdd_spec h.roomyList entry.line
  rw [h.list] at hline
  unfold DirLists.add
  by_cases hroom : lines.length < maxNodes
  · rw [if_pos hroom] at hline ⊢
    obtain ⟨list', hadd, hnodes, hroomy⟩ := hline
    rw [hadd, ok_bind]
    cases entry.subdir with
    | none =>
        refine ⟨_, rfl, hnodes, ?_, hroomy, h.roomySubdirs⟩
        rw [Option.toList_none, ite_self, List.append_nil]
        exact h.subdirs
    | some node =>
        cases subdirList with
        | false =>
            refine ⟨_, rfl, hnodes, ?_, hroomy, h.roomySubdirs⟩
            exact h.subdirs.trans (List.append_nil subdirs).symm
        | true =>
            have hsubdir := strListAdd_spec h.roomySubdirs node
            rw [h.subdirs, if_pos (Nat.lt_of_le_of_lt hle hroom)] at hsubdir
            obtain ⟨subdirs', hadd', hnodes', hroomy'⟩ := hsubdir
            dsimp only
            rw [if_pos rfl, hadd', ok_bind]
            exact ⟨_, rfl, hnodes, hnodes', hroomy, hroomy'⟩
  · rw [if_neg hroom] at hline ⊢
    rw [hline, error_bind]

/-! ## The loop -/

section
variable (cfg : Tunables) (tree : DirTree) (opts : LsOptions) (currTime : Int)
  (baseDir filter : Bytes)

/-- The entries that are listed, each as far as it can be printed. -/
def listedEntries (names : List Bytes) : List (Except LsFailure LsEntry) :=
  names.filterMap (lsStep cfg tree opts currTime baseDir filter)

variable {cfg tree opts currTime baseDir filter} {subdirList : Bool} {names : List Bytes}
  {lists lists' : DirLists} {lines subdirs : List MystrListNode} {entries : List LsEntry}

theorem DirLists.Holds.add_le (hle : subdirs.length ≤ lines.length) (entry : LsEntry) :
    (subdirs ++ if subdirList then entry.subdir.toList else []).length ≤
      (lines ++ [entry.line]).length := by
  rw [List.length_append, List.length_append, List.length_singleton]
  have hnode : (if subdirList then entry.subdir.toList else []).length ≤ 1 := by
    cases subdirList <;> cases entry.subdir <;> simp
  omega

/-- Where every entry can be printed and there is room for all, the loop comes to its end. -/
theorem populateLoop_ok (subdirList : Bool) (h : lists.Holds lines subdirs)
    (hle : subdirs.length ≤ lines.length)
    (hentries : listedEntries cfg tree opts currTime baseDir filter names = entries.map .ok)
    (hroom : lines.length + entries.length ≤ maxNodes) :
    ∃ lists', populateLoop cfg tree opts subdirList currTime baseDir filter names lists =
        .ok lists' ∧
      lists'.list.nodes = lines ++ entries.map (·.line) ∧
      (subdirList = true → lists'.subdirs.nodes = subdirs ++ entries.filterMap (·.subdir)) := by
  induction names generalizing lists lines subdirs entries with
  | nil =>
      obtain rfl : entries = [] := List.map_eq_nil_iff.mp hentries.symm
      refine ⟨lists, rfl, ?_, fun _ => ?_⟩
      · exact h.list.trans (List.append_nil lines).symm
      · exact h.subdirs.trans (List.append_nil subdirs).symm
  | cons name rest ih =>
      unfold populateLoop
      cases hstep : lsStep cfg tree opts currTime baseDir filter name with
      | none =>
          have hskip : listedEntries cfg tree opts currTime baseDir filter (name :: rest) =
              listedEntries cfg tree opts currTime baseDir filter rest :=
            List.filterMap_cons_none hstep
          exact ih h hle (hskip.symm.trans hentries) hroom
      | some listed =>
          have htake : listedEntries cfg tree opts currTime baseDir filter (name :: rest) =
              listed :: listedEntries cfg tree opts currTime baseDir filter rest :=
            List.filterMap_cons_some hstep
          obtain ⟨entry, entries, rfl, rfl, hrest⟩ :=
            List.map_eq_cons_iff.mp (hentries.symm.trans htake)
          rw [List.length_cons] at hroom
          have hadd := h.add hle subdirList entry
          rw [if_pos (by omega)] at hadd
          obtain ⟨lists', hlists', hholds⟩ := hadd
          obtain ⟨lists'', hloop, hlines, hsubdirs⟩ :=
            ih hholds (DirLists.Holds.add_le hle entry) hrest.symm (by
              rw [List.length_append, List.length_singleton]
              omega)
          dsimp only
          rw [ok_bind, hlists', ok_bind]
          refine ⟨lists'', hloop, ?_, fun htrue => ?_⟩
          · rw [hlines, List.append_assoc, List.map_cons]
            rfl
          · rw [hsubdirs htrue, if_pos htrue, List.append_assoc]
            cases hsub : entry.subdir with
            | none => rw [List.filterMap_cons_none hsub, Option.toList_none, List.nil_append]
            | some node => rw [List.filterMap_cons_some hsub]; rfl

/-- An entry that cannot be printed, and one more than there is room for, end the process. -/
theorem entries_of_populateLoop (h : lists.Holds lines subdirs)
    (hle : subdirs.length ≤ lines.length) (hroom : lines.length ≤ maxNodes)
    (hloop : populateLoop cfg tree opts subdirList currTime baseDir filter names lists =
      .ok lists') :
    ∃ entries : List LsEntry,
      listedEntries cfg tree opts currTime baseDir filter names = entries.map .ok ∧
        lines.length + entries.length ≤ maxNodes := by
  induction names generalizing lists lines subdirs with
  | nil => exact ⟨[], rfl, hroom⟩
  | cons name rest ih =>
      unfold populateLoop at hloop
      cases hstep : lsStep cfg tree opts currTime baseDir filter name with
      | none =>
          rw [hstep] at hloop
          obtain ⟨entries, hentries, hfits⟩ := ih h hle hroom hloop
          exact ⟨entries, (List.filterMap_cons_none hstep).trans hentries, hfits⟩
      | some listed =>
          rw [hstep] at hloop
          obtain ⟨entry, rfl, hentry⟩ := bind_eq_ok hloop
          obtain ⟨lists₁, hadded, hrest⟩ := bind_eq_ok hentry
          have hadd := h.add hle subdirList entry
          by_cases hone : lines.length < maxNodes
          · rw [if_pos hone] at hadd
            obtain ⟨lists₂, hlists₂, hholds⟩ := hadd
            obtain rfl : lists₁ = lists₂ := Except.ok.inj (hadded.symm.trans hlists₂)
            have hlength : (lines ++ [entry.line]).length = lines.length + 1 := by
              rw [List.length_append, List.length_singleton]
            obtain ⟨entries, hentries, hfits⟩ :=
              ih hholds (DirLists.Holds.add_le hle entry) (hlength.trans_le hone) hrest
            refine ⟨entry :: entries, ?_, ?_⟩
            · rw [List.map_cons, ← hentries]
              exact List.filterMap_cons_some hstep
            · rw [List.length_cons]
              omega
          · rw [if_neg hone] at hadd
            cases hadded.symm.trans hadd

end

/-! ## What is picked -/

section
variable (cfg : Tunables) (tree : DirTree) (opts : LsOptions) (currTime : Int)
  (baseDir filter name : Bytes)

/-- The entry is listed. -/
def picks : Bool :=
  entryPasses cfg tree opts filter name &&
    (!opts.doStat || (tree.lstat (normalisedBaseDir baseDir ++ name)).isSome)

def statOf : Lstat :=
  if opts.doStat then (tree.lstat (normalisedBaseDir baseDir ++ name)).getD noStat else noStat

def entryOf : Except LsFailure LsEntry :=
  lsEntry cfg tree opts currTime name (normalisedBaseDir baseDir ++ name)
    (statOf tree opts baseDir name)

theorem lsStep_eq :
    lsStep cfg tree opts currTime baseDir filter name =
      if picks cfg tree opts baseDir filter name then
        some (entryOf cfg tree opts currTime baseDir name)
      else none := by
  unfold lsStep picks entryOf statOf
  dsimp only
  cases entryPasses cfg tree opts filter name with
  | false => rfl
  | true =>
      cases opts.doStat with
      | false => rfl
      | true => cases tree.lstat (normalisedBaseDir baseDir ++ name) <;> rfl

/-- The names whose entries are listed, as the directory has them. -/
def pickedNames (dir : Dir) : List Bytes :=
  (dirNames dir).filter (picks cfg tree opts baseDir filter)

theorem listedEntries_eq (dir : Dir) :
    listedEntries cfg tree opts currTime baseDir filter (dirNames dir) =
      (pickedNames cfg tree opts baseDir filter dir).map
        (entryOf cfg tree opts currTime baseDir) := by
  unfold listedEntries pickedNames
  rw [← List.filterMap_eq_map, List.filterMap_filter]
  apply List.filterMap_congr
  intro name _
  exact lsStep_eq cfg tree opts currTime baseDir filter name

variable {cfg tree currTime baseDir filter}

/-- The lists, when the process lives to have them. -/
theorem populateDirList_ok_iff {dir : Dir} {option : Bytes} {isVerbose : Bool}
    {result : List Bytes × List Bytes} {opts : LsOptions}
    (hopts : lsOptions cfg option filter isVerbose = opts) :
    vsfLsPopulateDirList cfg tree currTime dir baseDir option filter isVerbose = .ok result ↔
      ∃ entries : List LsEntry,
        (pickedNames cfg tree opts baseDir filter dir).map
            (entryOf cfg tree opts currTime baseDir) = entries.map .ok ∧
          entries.length ≤ maxNodes ∧
          result = (strListSort (entries.map (·.line)) opts.rOption,
            if listsSubdirs cfg option then strListSort (entries.filterMap (·.subdir)) opts.rOption
            else []) := by
  rw [← listedEntries_eq cfg tree opts currTime baseDir filter dir, ← hopts]
  have hlists (entries : List LsEntry)
      (hentries : listedEntries cfg tree (lsOptions cfg option filter isVerbose) currTime baseDir
        filter (dirNames dir) = entries.map .ok) (hfits : entries.length ≤ maxNodes) :
      vsfLsPopulateDirList cfg tree currTime dir baseDir option filter isVerbose =
        .ok (strListSort (entries.map (·.line)) (lsOptions cfg option filter isVerbose).rOption,
          if listsSubdirs cfg option then
            strListSort (entries.filterMap (·.subdir))
              (lsOptions cfg option filter isVerbose).rOption
          else []) := by
    obtain ⟨lists, hloop, hlines, hsubdirs⟩ := populateLoop_ok (listsSubdirs cfg option)
      DirLists.holds_empty (Nat.le_refl 0) hentries (by rw [List.length_nil]; omega)
    unfold vsfLsPopulateDirList
    dsimp only
    rw [hloop, ok_bind, hlines]
    by_cases hrecurse : listsSubdirs cfg option = true
    · rw [if_pos hrecurse, if_pos hrecurse, hsubdirs hrecurse]
      rfl
    · rw [if_neg hrecurse, if_neg hrecurse]
      rfl
  constructor
  · intro h
    obtain ⟨lists, hloop, -⟩ := bind_eq_ok h
    obtain ⟨entries, hentries, hfits⟩ :=
      entries_of_populateLoop DirLists.holds_empty (Nat.le_refl 0) (Nat.zero_le _) hloop
    rw [List.length_nil, Nat.zero_add] at hfits
    exact ⟨entries, hentries, hfits, Except.ok.inj (h.symm.trans (hlists entries hentries hfits))⟩
  · rintro ⟨entries, hentries, hfits, rfl⟩
    exact hlists entries hentries hfits

end

/-! ## What can be printed -/

/-- A line with details can be made of the entry at the time `currTime`. -/
structure Printable (cfg : Tunables) (tree : DirTree) (currTime : Int) (stat : Lstat) : Prop where
  size : 0 ≤ stat.size
  user : cfg.hideIds = false → cfg.textUserdbNames = true → 0 ≤ stat.uid
  group : cfg.hideIds = false → cfg.textUserdbNames = true → 0 ≤ stat.gid
  date : (tree.strftime stat.mtime cfg.useLocaltime
    (stat.mtime > currTime ∨ currTime - stat.mtime > 60 * 60 * 24 * 182)).isSome = true

section
variable {cfg : Tunables} {tree : DirTree} {currTime : Int} {stat : Lstat} {id : Int}

theorem idText_ok_iff {lookup : Int → Except LsFailure (Option Bytes)}
    (hlookup : (∃ name, lookup id = .ok name) ↔ 0 ≤ id) :
    (∃ text, idText cfg lookup id = .ok text) ↔
      (cfg.hideIds = false → cfg.textUserdbNames = true → 0 ≤ id) := by
  unfold idText
  cases cfg.hideIds with
  | true => simp
  | false =>
      cases cfg.textUserdbNames with
      | false => exact iff_of_true ⟨_, rfl⟩ fun _ h => absurd h (by decide)
      | true =>
          rw [← hlookup]
          constructor
          · rintro ⟨text, htext⟩ _ _
            obtain ⟨name, hname, -⟩ := bind_eq_ok htext
            exact ⟨name, hname⟩
          · intro h
            obtain ⟨name, hname⟩ := h rfl rfl
            exact ⟨_, bind_eq_ok_iff.mpr ⟨name, hname, rfl⟩⟩

theorem getpwuid_ok_iff : (∃ name, vsfSysutilGetpwuid tree id = .ok name) ↔ 0 ≤ id := by
  unfold vsfSysutilGetpwuid
  split_ifs with hneg
  · exact iff_of_false (fun ⟨_, h⟩ => by cases h) (Int.not_le.mpr hneg)
  · exact iff_of_true ⟨_, rfl⟩ (Int.not_lt.mp hneg)

theorem getgrgid_ok_iff : (∃ name, vsfSysutilGetgrgid tree id = .ok name) ↔ 0 ≤ id := by
  unfold vsfSysutilGetgrgid
  split_ifs with hneg
  · exact iff_of_false (fun ⟨_, h⟩ => by cases h) (Int.not_le.mpr hneg)
  · exact iff_of_true ⟨_, rfl⟩ (Int.not_lt.mp hneg)

theorem getSize_ok_iff : (∃ size, vsfSysutilStatbufGetSize stat = .ok size) ↔ 0 ≤ stat.size := by
  unfold vsfSysutilStatbufGetSize
  split_ifs with hneg
  · exact iff_of_false (fun ⟨_, h⟩ => by cases h) (Int.not_le.mpr hneg)
  · exact iff_of_true ⟨_, rfl⟩ (Int.not_lt.mp hneg)

theorem getDate_ok_iff :
    (∃ date, vsfSysutilStatbufGetDate cfg tree stat currTime = .ok date) ↔
      (tree.strftime stat.mtime cfg.useLocaltime
        (stat.mtime > currTime ∨ currTime - stat.mtime > 60 * 60 * 24 * 182)).isSome = true := by
  unfold vsfSysutilStatbufGetDate
  cases tree.strftime stat.mtime cfg.useLocaltime
      (stat.mtime > currTime ∨ currTime - stat.mtime > 60 * 60 * 24 * 182) with
  | none => exact iff_of_false (fun ⟨_, h⟩ => by cases h) (by decide)
  | some date => exact iff_of_true ⟨date, rfl⟩ rfl

theorem buildDirLine_ok_iff (filename : Bytes) :
    (∃ line, buildDirLine cfg tree filename stat currTime = .ok line) ↔
      Printable cfg tree currTime stat := by
  unfold buildDirLine
  simp only [bind_eq_ok_iff]
  constructor
  · rintro ⟨line, size, hsize, user, huser, group, hgroup, date, hdate, -⟩
    exact ⟨getSize_ok_iff.mp ⟨size, hsize⟩, (idText_ok_iff getpwuid_ok_iff).mp ⟨user, huser⟩,
      (idText_ok_iff getgrgid_ok_iff).mp ⟨group, hgroup⟩, getDate_ok_iff.mp ⟨date, hdate⟩⟩
  · intro h
    obtain ⟨size, hsize⟩ := getSize_ok_iff.mpr h.size
    obtain ⟨user, huser⟩ := (idText_ok_iff (@getpwuid_ok_iff tree _)).mpr h.user
    obtain ⟨group, hgroup⟩ := (idText_ok_iff (@getgrgid_ok_iff tree _)).mpr h.group
    obtain ⟨date, hdate⟩ := getDate_ok_iff.mpr h.date
    exact ⟨_, size, hsize, user, huser, group, hgroup, date, hdate, rfl⟩

theorem lsEntry_ok_iff (opts : LsOptions) (name path : Bytes) :
    (∃ entry, lsEntry cfg tree opts currTime name path stat = .ok entry) ↔
      (opts.isVerbose = true → Printable cfg tree currTime stat) := by
  unfold lsEntry dirLine
  simp only [bind_eq_ok_iff]
  by_cases hverbose : opts.isVerbose = true
  · rw [if_pos hverbose, ← buildDirLine_ok_iff (verboseName tree opts name path stat)]
    constructor
    · rintro ⟨entry, line, hline, -⟩ _
      exact ⟨line, hline⟩
    · intro h
      obtain ⟨line, hline⟩ := h hverbose
      exact ⟨_, line, hline, rfl⟩
  · rw [if_neg hverbose]
    exact iff_of_true ⟨_, _, rfl, rfl⟩ fun h => absurd h hverbose

end

end Vsftpd.Session
