import Vsftpd.Session.DirWalk
import Vsftpd.Decimal
import Vsftpd.Lib.KeySort

/-!
# The order of a listing

What a directory listing should hold and in which order, and when it does.  The key of a
time is its decimal text; behind a minus sign the larger number is the earlier time.
-/

namespace Vsftpd.Session

open Vsftpd.Lib

section
variable (cfg : Tunables) (tree : DirTree) (baseDir option filter : Bytes) (isVerbose : Bool)

/-! ## What should be listed -/

def entryStat (name : Bytes) : Option Lstat := tree.lstat (normalisedBaseDir baseDir ++ name)

def entryTime (name : Bytes) : Int := ((entryStat tree baseDir name).map (·.mtime)).getD 0

/-- The options need more of an entry than its name. -/
def StatNeeded : Prop :=
  isVerbose = true ∨ 108 ∈ option ∨ 116 ∈ option ∨ 70 ∈ option ∨ listsSubdirs cfg option = true

/-- The entry is to be shown. -/
structure Listed (name : Bytes) : Prop where
  dot : name.head? = some 46 → 97 ∈ option ∨ filter.head? = some 46 ∨
    (cfg.forceDotFiles = true ∧ name ≠ bytes "." ∧ name ≠ bytes "..")
  visible : vsfAccessCheckFileVisible tree.toPathEnv cfg.hideFile name = true
  passes : filter = [] ∨ (vsfFilenamePassesFilter tree.toPathEnv name filter 0).1 = true
  found : StatNeeded cfg option isVerbose → (entryStat tree baseDir name).isSome = true

/-- A directory to be shown, into which a recursive listing goes. -/
def ListedDir (name : Bytes) : Prop :=
  Listed cfg tree baseDir option filter isVerbose name ∧
    (entryStat tree baseDir name).any Lstat.isDir = true

/-- The order without `-r`: by the bytes of the names, or the newest first. -/
def Precedes (a b : Bytes) : Prop :=
  if 116 ∈ option then entryTime tree baseDir b ≤ entryTime tree baseDir a else a < b

def Before (a b : Bytes) : Prop :=
  if 114 ∈ option then Precedes tree baseDir option b a else Precedes tree baseDir option a b

/-- The list holds each of the names with the property once, in the order of the listing. -/
structure InOrder (P : Bytes → Prop) (names list : List Bytes) : Prop where
  nodup : list.Nodup
  mem : ∀ name, name ∈ list ↔ name ∈ names ∧ P name
  sorted : list.Pairwise (Before tree baseDir option)

/-- By what an entry is sorted. -/
def sortKey (name : Bytes) : Bytes :=
  if 116 ∈ option then
    vsfSysutilStatbufGetSortkeyMtime ((entryStat tree baseDir name).getD noStat)
  else name

/-- Lines with details are asked for. -/
def DetailsNeeded : Prop := isVerbose = true ∨ 108 ∈ option

/-! ## What is listed -/

section
variable (currTime : Int)

/-- The names whose entries are listed, in the order into which these are sorted. -/
def listOrder (dir : Dir) : List Bytes :=
  sortByKey (sortKey tree baseDir option) (lsOptions cfg option filter isVerbose).rOption
    (pickedNames cfg tree (lsOptions cfg option filter isVerbose) baseDir filter dir)

/-- The line that is made of an entry. -/
def lineOf (name : Bytes) : Except LsFailure Bytes :=
  (entryOf cfg tree (lsOptions cfg option filter isVerbose) currTime baseDir name).map (·.line.str)

/-- The listing ends, and its lines and subdirectories are the right ones in order. -/
def YieldsListing (dir : Dir) : Prop :=
  ∃ lists,
    vsfLsPopulateDirList cfg tree currTime dir baseDir option filter isVerbose = .ok lists ∧
    lists.1.map .ok = (listOrder cfg tree baseDir option filter isVerbose dir).map
      (lineOf cfg tree baseDir option filter isVerbose currTime) ∧
    InOrder tree baseDir option (Listed cfg tree baseDir option filter isVerbose) (dirNames dir)
      (listOrder cfg tree baseDir option filter isVerbose dir) ∧
    if listsSubdirs cfg option then
      InOrder tree baseDir option (ListedDir cfg tree baseDir option filter isVerbose)
        (dirNames dir) lists.2
    else lists.2 = []

end

end

/-! ## The options -/

section
variable {cfg : Tunables} {tree : DirTree} {baseDir option filter : Bytes} {isVerbose : Bool}
  {currTime : Int}

theorem hasOption_iff {c : UInt8} (hc : c ≠ 0) : hasOption option c = true ↔ c ∈ option :=
  strLocateChar_isSome hc

theorem tOption_iff : (lsOptions cfg option filter isVerbose).tOption = true ↔ 116 ∈ option :=
  hasOption_iff (by decide)

theorem doStat_iff :
    (lsOptions cfg option filter isVerbose).doStat = true ↔ StatNeeded cfg option isVerbose := by
  show ((isVerbose || hasOption option 108) || hasOption option 116 || hasOption option 70
    || listsSubdirs cfg option) = true ↔ _
  simp only [Bool.or_eq_true, hasOption_iff (by decide : (108 : UInt8) ≠ 0),
    hasOption_iff (by decide : (116 : UInt8) ≠ 0), hasOption_iff (by decide : (70 : UInt8) ≠ 0),
    StatNeeded, or_assoc]

theorem doStat_of_time (h : 116 ∈ option) :
    (lsOptions cfg option filter isVerbose).doStat = true :=
  doStat_iff.mpr (.inr (.inr (.inl h)))

theorem aOption_iff :
    (lsOptions cfg option filter isVerbose).aOption = true ↔
      97 ∈ option ∨ filter.head? = some 46 := by
  show (hasOption option 97 || decide (filter.head? = some 46)) = true ↔ _
  rw [Bool.or_eq_true, hasOption_iff (by decide), decide_eq_true_iff]

theorem dotSkipped_iff (aOption : Bool) (name : Bytes) :
    dotSkipped cfg aOption name = false ↔
      (name.head? = some 46 → aOption = true ∨
        (cfg.forceDotFiles = true ∧ name ≠ bytes "." ∧ name ≠ bytes "..")) := by
  unfold dotSkipped
  by_cases hdot : name.head? = some 46
  · have hone : name.length = 1 ↔ name = bytes "." := by
      obtain ⟨rest, rfl⟩ := List.head?_eq_some_iff.mp hdot
      show (46 :: rest).length = 1 ↔ 46 :: rest = [46]
      simp
    cases aOption with
    | true => simp
    | false => cases cfg.forceDotFiles <;> simp [hdot, hone, and_comm]
  · simp [hdot]

theorem verbose_iff :
    (lsOptions cfg option filter isVerbose).isVerbose = true ↔ DetailsNeeded option isVerbose := by
  show (isVerbose || hasOption option 108) = true ↔ _
  rw [Bool.or_eq_true, hasOption_iff (by decide)]
  rfl

/-- The entries that are taken are those that should be. -/
theorem picks_iff {name : Bytes} :
    picks cfg tree (lsOptions cfg option filter isVerbose) baseDir filter name = true ↔
      Listed cfg tree baseDir option filter isVerbose name := by
  have hfilter : strIsempty filter = true ↔ filter = [] := List.isEmpty_iff
  have hstat : (!(lsOptions cfg option filter isVerbose).doStat ||
      (tree.lstat (normalisedBaseDir baseDir ++ name)).isSome) = true ↔
        (StatNeeded cfg option isVerbose → (entryStat tree baseDir name).isSome = true) := by
    rw [← @doStat_iff _ _ filter _]
    cases (lsOptions cfg option filter isVerbose).doStat <;> simp [entryStat]
  unfold picks entryPasses
  rw [Bool.and_eq_true, hstat, Bool.and_eq_true, Bool.and_eq_true, Bool.not_eq_true',
    Bool.or_eq_true, dotSkipped_iff, aOption_iff, or_assoc, hfilter]
  constructor
  · rintro ⟨⟨⟨hdot, hvisible⟩, hpasses⟩, hfound⟩
    exact ⟨hdot, hvisible, hpasses, hfound⟩
  · intro h
    exact ⟨⟨⟨h.dot, h.visible⟩, h.passes⟩, h.found⟩

/-! ## The keys -/

theorem sortkeyMtime_eq (stat : Lstat) :
    vsfSysutilStatbufGetSortkeyMtime stat =
      if stat.mtime < 0 then 45 :: zeroPadded 29 stat.mtime.natAbs
      else zeroPadded 30 stat.mtime.natAbs :=
  rfl

theorem sortkeyMtime_ne_nil (stat : Lstat) : vsfSysutilStatbufGetSortkeyMtime stat ≠ [] := by
  rw [sortkeyMtime_eq]
  split
  · exact List.cons_ne_nil _ _
  · exact zeroPadded_ne_nil 30 _

theorem compare_natAbs_of_nonneg {x y : Int} (hx : 0 ≤ x) (hy : 0 ≤ y) :
    compare x.natAbs y.natAbs = compare x y := by
  have hlt : x.natAbs < y.natAbs ↔ x < y := by omega
  have hgt : y.natAbs < x.natAbs ↔ y < x := by omega
  simp only [Nat.compare_eq_ite_lt, Int.compare_eq_ite_lt, hlt, hgt]

theorem compare_natAbs_of_neg {x y : Int} (hx : x < 0) (hy : y < 0) :
    compare x.natAbs y.natAbs = compare y x := by
  have hlt : x.natAbs < y.natAbs ↔ y < x := by omega
  have hgt : y.natAbs < x.natAbs ↔ x < y := by omega
  simp only [Nat.compare_eq_ite_lt, Int.compare_eq_ite_lt, hlt, hgt]

/-- A minus sign stands before every digit. -/
theorem compare_minus {s t : Bytes} (ht : ∀ c ∈ t, vsfSysutilIsdigit c = true) (hne : t ≠ []) :
    compare (45 :: s) t = .lt := by
  cases t with
  | nil => exact absurd rfl hne
  | cons c t =>
      have hdigit := isdigit_iff.mp (ht c List.mem_cons_self)
      have hlt : compare (45 : UInt8) c = .lt := by
        rw [← compare_toNat, Nat.compare_eq_lt]
        exact Nat.lt_of_lt_of_le (by decide) hdigit.1
      rw [List.compare_cons_cons, hlt]
      rfl

/-- Keys of times are ordered like these, but two negative ones the other way. -/
theorem compare_sortkeyMtime {s t : Lstat} (hs : -2 ^ 63 ≤ s.mtime ∧ s.mtime < 2 ^ 63)
    (ht : -2 ^ 63 ≤ t.mtime ∧ t.mtime < 2 ^ 63) :
    compare (vsfSysutilStatbufGetSortkeyMtime s) (vsfSysutilStatbufGetSortkeyMtime t) =
      if s.mtime < 0 ∧ t.mtime < 0 then compare t.mtime s.mtime
      else compare s.mtime t.mtime := by
  have hfit {w : Nat} {x : Int} (hw : 29 ≤ w) (hx : -2 ^ 63 ≤ x ∧ x < 2 ^ 63) :
      x.natAbs < 10 ^ w := by
    calc
      x.natAbs ≤ 2 ^ 63 := by omega
      _ < 10 ^ 29 := by decide
      _ ≤ 10 ^ w := Nat.pow_le_pow_right (by decide) hw
  rw [sortkeyMtime_eq, sortkeyMtime_eq]
  by_cases hsneg : s.mtime < 0
  · by_cases htneg : t.mtime < 0
    · rw [if_pos hsneg, if_pos htneg, if_pos ⟨hsneg, htneg⟩, List.compare_cons_cons,
        compare_zeroPadded (by decide) (hfit (by decide) hs) (hfit (by decide) ht)]
      exact compare_natAbs_of_neg hsneg htneg
    · rw [if_pos hsneg, if_neg htneg, if_neg fun h => htneg h.2,
        compare_minus (fun _ => isDigit_of_mem_zeroPadded) (zeroPadded_ne_nil 30 _)]
      exact (Int.compare_eq_lt.mpr (by omega)).symm
  · by_cases htneg : t.mtime < 0
    · rw [if_neg hsneg, if_pos htneg, if_neg fun h => hsneg h.1, Std.OrientedOrd.eq_swap,
        compare_minus (fun _ => isDigit_of_mem_zeroPadded) (zeroPadded_ne_nil 30 _)]
      exact (Int.compare_eq_gt.mpr (by omega)).symm
    · rw [if_neg hsneg, if_neg htneg, if_neg fun h => htneg h.2,
        compare_zeroPadded (by decide) (hfit (by decide) hs) (hfit (by decide) ht)]
      exact compare_natAbs_of_nonneg (by omega) (by omega)

theorem mtime_getD (name : Bytes) :
    ((entryStat tree baseDir name).getD noStat).mtime =
      entryTime tree baseDir name := by
  unfold entryTime
  cases entryStat tree baseDir name with
  | none => rfl
  | some stat => rfl

theorem sortKey_ne_nil {name : Bytes} (hne : name ≠ []) :
    sortKey tree baseDir option name ≠ [] := by
  unfold sortKey
  split
  · exact sortkeyMtime_ne_nil _
  · exact hne

theorem cmpStr_of_key {node : MystrListNode} (h : node.sortKeyStr ≠ []) :
    node.cmpStr = node.sortKeyStr := by
  have hempty : (!strIsempty node.sortKeyStr) = true := by
    rw [Bool.not_eq_true', Bool.eq_false_iff]
    exact fun hempty => h (List.isEmpty_iff.mp hempty)
  exact if_pos hempty

/-- The lines of entries are compared by the keys of these. -/
theorem cmpStr_line {name : Bytes} {entry : LsEntry} (hne : name ≠ [])
    (h : entryOf cfg tree (lsOptions cfg option filter isVerbose) currTime baseDir name =
      .ok entry) :
    entry.line.cmpStr = sortKey tree baseDir option name := by
  have hkey : entry.line.sortKeyStr = sortKey tree baseDir option name := by
    obtain ⟨line, -, heq⟩ := bind_eq_ok h
    rw [← Except.ok.inj heq]
    unfold sortKey
    by_cases htime : 116 ∈ option
    · rw [if_pos htime]
      refine (if_pos (tOption_iff.mpr htime)).trans ?_
      rw [statOf, if_pos (doStat_of_time htime)]
      rfl
    · rw [if_neg htime]
      exact if_neg fun h => htime (tOption_iff.mp h)
  rw [cmpStr_of_key (by rw [hkey]; exact sortKey_ne_nil hne), hkey]

section
variable (hlists : listsSubdirs cfg option = true) {name : Bytes}
include hlists

theorem subdirNode_eq :
    subdirNode (lsOptions cfg option filter isVerbose) name
        (statOf tree (lsOptions cfg option filter isVerbose) baseDir name) =
      if (entryStat tree baseDir name).any Lstat.isDir then
        some ⟨name, if 116 ∈ option then sortKey tree baseDir option name else []⟩
      else none := by
  have hstat : (lsOptions cfg option filter isVerbose).doStat = true :=
    doStat_of_listsSubdirs hlists
  unfold subdirNode statOf sortKey entryStat
  rw [if_pos hstat]
  cases tree.lstat (normalisedBaseDir baseDir ++ name) with
  | none => rfl
  | some stat =>
      dsimp only [Option.getD_some]
      by_cases htime : 116 ∈ option
      · rw [if_pos htime, if_pos htime, if_pos (tOption_iff.mpr htime)]
        rfl
      · rw [if_neg htime, if_neg fun h => htime (tOption_iff.mp h)]
        rfl

theorem subdir_map_str :
    (subdirNode (lsOptions cfg option filter isVerbose) name
        (statOf tree (lsOptions cfg option filter isVerbose) baseDir name)).map (·.str) =
      Option.guard (fun name => (entryStat tree baseDir name).any Lstat.isDir) name := by
  rw [subdirNode_eq hlists]
  unfold Option.guard
  dsimp only
  split <;> rfl

/-- So are the subdirectories, which without `-t` are compared by their own text. -/
theorem cmpStr_subdir {node : MystrListNode}
    (h : subdirNode (lsOptions cfg option filter isVerbose) name
      (statOf tree (lsOptions cfg option filter isVerbose) baseDir name) = some node) :
    node.cmpStr = sortKey tree baseDir option node.str := by
  rw [subdirNode_eq hlists] at h
  split at h
  · rw [← Option.some.inj h]
    by_cases htime : 116 ∈ option
    · have hkey : sortKey tree baseDir option name ≠ [] := by
        unfold sortKey
        rw [if_pos htime]
        exact sortkeyMtime_ne_nil _
      rw [if_pos htime]
      exact cmpStr_of_key hkey
    · rw [if_neg htime]
      exact (if_neg htime).symm
  · exact absurd h (by simp)

end

/-! ## The order -/

theorem rOption_eq :
    (lsOptions cfg option filter isVerbose).rOption = xor (decide (114 ∈ option))
      (decide (116 ∈ option)) := by
  have hdecide {c : UInt8} (hc : c ≠ 0) : hasOption option c = decide (c ∈ option) :=
    Bool.eq_iff_iff.mpr ((hasOption_iff hc).trans decide_eq_true_iff.symm)
  show xor (hasOption option 114) (hasOption option 116) = _
  rw [hdecide (by decide), hdecide (by decide)]

/-- Names in the order of their bytes are in the order of the listing. -/
theorem sorted_by_name (htime : 116 ∉ option) {list : List Bytes} (hlist : list.Nodup) :
    (sortByKey (sortKey tree baseDir option) (lsOptions cfg option filter isVerbose).rOption
      list).Pairwise (Before tree baseDir option) := by
  have hreverse : (lsOptions cfg option filter isVerbose).rOption = decide (114 ∈ option) := by
    rw [rOption_eq, decide_eq_false htime, Bool.xor_false]
  have hkey (name : Bytes) : sortKey tree baseDir option name = name := if_neg htime
  have hprecedes {a b : Bytes} (h : compare a b = .lt) : Precedes tree baseDir option a b := by
    unfold Precedes
    rw [if_neg htime]
    exact (compare_eq_lt_iff (fun _ _ => Std.compare_eq_lt) a b).mp h
  rw [hreverse, pairwise_sortByKey_iff hlist]
  · intro a _ b _ hlt
    unfold keyCompare at hlt
    unfold Before
    rw [hkey, hkey] at hlt
    by_cases hr : 114 ∈ option
    · rw [if_pos (decide_eq_true hr)] at hlt
      rw [if_pos hr]
      exact hprecedes hlt
    · rw [if_neg (by rw [decide_eq_true_iff]; exact hr)] at hlt
      rw [if_neg hr]
      exact hprecedes hlt
  · intro a _ b _ hne heq
    unfold keyCompare at heq
    rw [hkey, hkey] at heq
    refine absurd ?_ hne
    split at heq
    · exact (Std.LawfulEqOrd.eq_of_compare heq).symm
    · exact Std.LawfulEqOrd.eq_of_compare heq

/-- With `-t`, the entries with negative times all have one. -/
def OneNegativeTime (tree : DirTree) (baseDir option : Bytes) (list : List Bytes) : Prop :=
  116 ∈ option → ∀ a ∈ list, ∀ b ∈ list, entryTime tree baseDir a < 0 →
    entryTime tree baseDir b < 0 → entryTime tree baseDir a = entryTime tree baseDir b

/-- The times are those of a machine. -/
def TimesFit (tree : DirTree) (baseDir : Bytes) (list : List Bytes) : Prop :=
  ∀ name ∈ list, -2 ^ 63 ≤ entryTime tree baseDir name ∧ entryTime tree baseDir name < 2 ^ 63

section
variable {list : List Bytes} (htime : 116 ∈ option) (htimes : TimesFit tree baseDir list)
include htime htimes

theorem compare_sortKey {a b : Bytes} (ha : a ∈ list) (hb : b ∈ list) :
    compare (sortKey tree baseDir option a) (sortKey tree baseDir option b) =
      if entryTime tree baseDir a < 0 ∧ entryTime tree baseDir b < 0 then
        compare (entryTime tree baseDir b) (entryTime tree baseDir a)
      else compare (entryTime tree baseDir a) (entryTime tree baseDir b) := by
  have hfit {name : Bytes} (hname : name ∈ list) := htimes name hname
  simp only [← mtime_getD] at hfit ⊢
  unfold sortKey
  rw [if_pos htime, if_pos htime]
  exact compare_sortkeyMtime (hfit ha) (hfit hb)

theorem time_eq_of_key_eq {a b : Bytes} (ha : a ∈ list) (hb : b ∈ list)
    (h : compare (sortKey tree baseDir option a) (sortKey tree baseDir option b) = .eq) :
    entryTime tree baseDir a = entryTime tree baseDir b := by
  rw [compare_sortKey htime htimes ha hb] at h
  split at h
  · exact (Int.compare_eq_eq.mp h).symm
  · exact Int.compare_eq_eq.mp h

/-- Smaller keys are of earlier times, but for negative ones. -/
theorem le_of_key_lt_iff :
    (∀ a ∈ list, ∀ b ∈ list,
        compare (sortKey tree baseDir option a) (sortKey tree baseDir option b) = .lt →
          entryTime tree baseDir a ≤ entryTime tree baseDir b) ↔
      OneNegativeTime tree baseDir option list := by
  constructor
  · intro h _ a ha b hb hta htb
    by_contra hne
    -- the later of the two has the smaller key
    rcases lt_or_gt_of_ne hne with hlt | hgt
    · have hkey := compare_sortKey htime htimes hb ha
      rw [if_pos ⟨htb, hta⟩, Int.compare_eq_lt.mpr hlt] at hkey
      have hle := h b hb a ha hkey
      omega
    · have hkey := compare_sortKey htime htimes ha hb
      rw [if_pos ⟨hta, htb⟩, Int.compare_eq_lt.mpr hgt] at hkey
      have hle := h a ha b hb hkey
      omega
  · intro h a ha b hb hlt
    rw [compare_sortKey htime htimes ha hb] at hlt
    by_cases hneg : entryTime tree baseDir a < 0 ∧ entryTime tree baseDir b < 0
    · exact (h htime a ha b hb hneg.1 hneg.2).le
    · rw [if_neg hneg] at hlt
      exact (Int.compare_eq_lt.mp hlt).le

/-- Entries in the order of their keys are in that of the listing, but for negative times. -/
theorem sorted_by_time_iff (hlist : list.Nodup) :
    (sortByKey (sortKey tree baseDir option) (lsOptions cfg option filter isVerbose).rOption
        list).Pairwise (Before tree baseDir option) ↔
      OneNegativeTime tree baseDir option list := by
  have hreverse : (lsOptions cfg option filter isVerbose).rOption = !decide (114 ∈ option) := by
    rw [rOption_eq, decide_eq_true htime, Bool.xor_true]
  rw [hreverse, ← le_of_key_lt_iff htime htimes]
  by_cases hr : 114 ∈ option
  · have hbefore : Before tree baseDir option = fun a b =>
        entryTime tree baseDir a ≤ entryTime tree baseDir b := by
      funext a b
      unfold Before Precedes
      rw [if_pos hr, if_pos htime]
    rw [decide_eq_true hr, hbefore, pairwise_sortByKey_iff hlist]
    · rfl
    · intro a ha b hb _ heq
      exact (time_eq_of_key_eq htime htimes ha hb heq).le
  · have hbefore : Before tree baseDir option = fun a b =>
        entryTime tree baseDir b ≤ entryTime tree baseDir a := by
      funext a b
      unfold Before Precedes
      rw [if_neg hr, if_pos htime]
    rw [decide_eq_false hr, hbefore, pairwise_sortByKey_iff hlist]
    · constructor
      · exact fun h a ha b hb => h b hb a ha
      · exact fun h a ha b hb => h b hb a ha
    · intro a ha b hb _ heq
      exact (time_eq_of_key_eq htime htimes hb ha heq).le

end

theorem sorted_iff {list : List Bytes} (hlist : list.Nodup) (htimes : TimesFit tree baseDir list) :
    (sortByKey (sortKey tree baseDir option) (lsOptions cfg option filter isVerbose).rOption
        list).Pairwise (Before tree baseDir option) ↔
      OneNegativeTime tree baseDir option list := by
  by_cases htime : 116 ∈ option
  · exact sorted_by_time_iff htime htimes hlist
  · constructor
    · exact fun _ h => absurd h htime
    · exact fun _ => sorted_by_name htime hlist

theorem inOrder_iff {P : Bytes → Prop} {p : Bytes → Bool} (hp : ∀ name, p name = true ↔ P name)
    {names : List Bytes} (hnames : names.Nodup) (htimes : TimesFit tree baseDir names) :
    InOrder tree baseDir option P names
        (sortByKey (sortKey tree baseDir option) (lsOptions cfg option filter isVerbose).rOption
          (names.filter p)) ↔
      OneNegativeTime tree baseDir option (names.filter p) := by
  have hnodup : (names.filter p).Nodup := hnames.filter p
  have hfit : TimesFit tree baseDir (names.filter p) := fun name hname =>
    htimes name (List.mem_filter.mp hname).1
  rw [← sorted_iff hnodup hfit]
  constructor
  · exact fun h => h.sorted
  · intro h
    refine ⟨perm_sortByKey.nodup_iff.mpr hnodup, fun name => ?_, h⟩
    rw [mem_sortByKey, List.mem_filter, hp]

/-! ## The listing -/

theorem strListSort_eq (list : List MystrListNode) (reverse : Bool) :
    strListSort list reverse = (sortByKey MystrListNode.cmpStr reverse list).map (·.str) :=
  rfl

theorem ne_nil_of_mem_dirNames {dir : Dir} {name : Bytes} (h : name ∈ dirNames dir) :
    name ≠ [] := by
  rintro rfl
  exact absurd (List.mem_takeWhile_imp h) (by decide)

/-- The lines come in the order of their entries. -/
theorem lines_eq {dir : Dir} {lists : List Bytes × List Bytes}
    (h : vsfLsPopulateDirList cfg tree currTime dir baseDir option filter isVerbose = .ok lists) :
    lists.1.map .ok = (listOrder cfg tree baseDir option filter isVerbose dir).map
      (lineOf cfg tree baseDir option filter isVerbose currTime) := by
  obtain ⟨entries, hentries, -, rfl⟩ := (populateDirList_ok_iff rfl).mp h
  obtain ⟨build, hbuild⟩ : ∃ build : Bytes → LsEntry,
      ∀ name ∈ pickedNames cfg tree (lsOptions cfg option filter isVerbose) baseDir filter dir,
        entryOf cfg tree (lsOptions cfg option filter isVerbose) currTime baseDir name =
          .ok (build name) := by
    have hall := exists_map_ok_iff.mp ⟨entries, hentries⟩
    refine ⟨fun name => (entryOf cfg tree (lsOptions cfg option filter isVerbose) currTime baseDir
      name).toOption.getD ⟨⟨[], []⟩, none⟩, fun name hname => ?_⟩
    obtain ⟨entry, hentry⟩ := hall name hname
    dsimp only
    rw [hentry]
    rfl
  have hbuilt : entries.map (·.line) =
      (pickedNames cfg tree (lsOptions cfg option filter isVerbose) baseDir filter dir).map
        fun name => (build name).line :=
    map_of_map_ok hentries fun name hname entry hentry => by
      rw [Except.ok.inj (hentry.symm.trans (hbuild name hname))]
  have hsorted : (listOrder cfg tree baseDir option filter isVerbose dir).map
      (fun name => (build name).line) =
        sortByKey MystrListNode.cmpStr (lsOptions cfg option filter isVerbose).rOption
          (entries.map (·.line)) := by
    rw [hbuilt]
    refine map_sortByKey _ _ fun name hname => ?_
    have hne := ne_nil_of_mem_dirNames (List.mem_filter.mp hname).1
    exact (cmpStr_line hne (hbuild name hname)).symm
  dsimp only
  rw [strListSort_eq, ← hsorted, List.map_map, List.map_map]
  apply List.map_congr_left
  intro name hname
  unfold lineOf
  rw [hbuild name (mem_sortByKey.mp hname)]
  rfl

/-- The subdirectories are the entries that are directories, sorted by their keys. -/
theorem subdirsOf_eq (hlists : listsSubdirs cfg option = true) (dir : Dir) :
    subdirsOf cfg tree option filter isVerbose (baseDir, dir) =
      sortByKey (sortKey tree baseDir option) (lsOptions cfg option filter isVerbose).rOption
        ((pickedNames cfg tree (lsOptions cfg option filter isVerbose) baseDir filter dir).filter
          fun name => (entryStat tree baseDir name).any Lstat.isDir) := by
  unfold subdirsOf
  dsimp only
  rw [if_pos hlists, strListSort_eq, map_sortByKey (sortKey tree baseDir option) MystrListNode.str,
    List.map_filterMap, ← List.filterMap_eq_filter]
  · congr 1
    apply List.filterMap_congr
    intro name _
    exact subdir_map_str hlists
  · intro node hnode
    obtain ⟨name, -, hsub⟩ := List.mem_filterMap.mp hnode
    exact cmpStr_subdir hlists hsub

instance : DecidablePred (Listed cfg tree baseDir option filter isVerbose) := fun name =>
  decidable_of_iff (picks cfg tree (lsOptions cfg option filter isVerbose) baseDir filter name =
    true) picks_iff

/-- The names of the directory that are to be shown. -/
def shownNames (cfg : Tunables) (tree : DirTree) (baseDir option filter : Bytes) (isVerbose : Bool)
    (dir : Dir) : List Bytes :=
  (dirNames dir).filter fun name => Listed cfg tree baseDir option filter isVerbose name

theorem pickedNames_eq (dir : Dir) :
    pickedNames cfg tree (lsOptions cfg option filter isVerbose) baseDir filter dir =
      shownNames cfg tree baseDir option filter isVerbose dir := by
  apply List.filter_congr
  intro name _
  rw [Bool.eq_iff_iff, picks_iff, decide_eq_true_iff]

/-- The listing ends when there is room, and what is shown with details can be printed. -/
theorem exists_lists_iff_shown (dir : Dir) :
    (∃ lists, vsfLsPopulateDirList cfg tree currTime dir baseDir option filter isVerbose =
        .ok lists) ↔
      (shownNames cfg tree baseDir option filter isVerbose dir).length ≤ maxNodes ∧
        (DetailsNeeded option isVerbose →
          ∀ name ∈ shownNames cfg tree baseDir option filter isVerbose dir,
            ∀ stat ∈ entryStat tree baseDir name, Printable cfg tree currTime stat) := by
  have hlists := @exists_lists_iff cfg tree option filter isVerbose (baseDir, dir) currTime
  unfold pickedAt at hlists
  rw [pickedNames_eq, verbose_iff] at hlists
  rw [hlists]
  refine and_congr_right fun _ => imp_congr_right fun hdetails => forall₂_congr fun name hname => ?_
  have hneeded : StatNeeded cfg option isVerbose := by
    rcases hdetails with h | h
    · exact .inl h
    · exact .inr (.inl h)
  have hlisted : Listed cfg tree baseDir option filter isVerbose name :=
    of_decide_eq_true (List.mem_filter.mp hname).2
  obtain ⟨stat, hstat⟩ := Option.isSome_iff_exists.mp (hlisted.found hneeded)
  have hof : statOf tree (lsOptions cfg option filter isVerbose) baseDir name = stat := by
    unfold statOf
    rw [if_pos (doStat_iff.mpr hneeded)]
    show (entryStat tree baseDir name).getD noStat = stat
    rw [hstat]
    rfl
  rw [hof, hstat]
  simp

section
variable {dir : Dir} (hnames : (dirNames dir).Nodup) (htimes : TimesFit tree baseDir (dirNames dir))
include hnames htimes

theorem inOrder_listOrder_iff :
    InOrder tree baseDir option (Listed cfg tree baseDir option filter isVerbose) (dirNames dir)
        (listOrder cfg tree baseDir option filter isVerbose dir) ↔
      OneNegativeTime tree baseDir option
        (shownNames cfg tree baseDir option filter isVerbose dir) := by
  unfold listOrder
  rw [pickedNames_eq]
  exact inOrder_iff (fun _ => decide_eq_true_iff) hnames htimes

theorem inOrder_subdirs (hlists : listsSubdirs cfg option = true)
    (htime : OneNegativeTime tree baseDir option
      (shownNames cfg tree baseDir option filter isVerbose dir)) :
    InOrder tree baseDir option (ListedDir cfg tree baseDir option filter isVerbose) (dirNames dir)
      (subdirsOf cfg tree option filter isVerbose (baseDir, dir)) := by
  have hsubdirs : subdirsOf cfg tree option filter isVerbose (baseDir, dir) =
      sortByKey (sortKey tree baseDir option) (lsOptions cfg option filter isVerbose).rOption
        ((dirNames dir).filter fun name => (entryStat tree baseDir name).any Lstat.isDir &&
          decide (Listed cfg tree baseDir option filter isVerbose name)) := by
    rw [← List.filter_filter, subdirsOf_eq hlists, pickedNames_eq]
    rfl
  rw [hsubdirs, inOrder_iff (fun name => ?_) hnames htimes]
  · intro h a ha b hb
    rw [← List.filter_filter] at ha hb
    exact htime h a (List.mem_filter.mp ha).1 b (List.mem_filter.mp hb).1
  · rw [Bool.and_eq_true, decide_eq_true_iff, and_comm]
    rfl

/-- The lists are right when there is room, every line can be made, and `-t` does not meet
two times before the epoch. -/
theorem yieldsListing_iff :
    YieldsListing cfg tree baseDir option filter isVerbose currTime dir ↔
      (shownNames cfg tree baseDir option filter isVerbose dir).length ≤ maxNodes ∧
        (DetailsNeeded option isVerbose →
          ∀ name ∈ shownNames cfg tree baseDir option filter isVerbose dir,
            ∀ stat ∈ entryStat tree baseDir name, Printable cfg tree currTime stat) ∧
        OneNegativeTime tree baseDir option
          (shownNames cfg tree baseDir option filter isVerbose dir) := by
  unfold YieldsListing
  rw [← and_assoc, ← exists_lists_iff_shown, ← inOrder_listOrder_iff hnames htimes]
  constructor
  · rintro ⟨lists, hlists, -, horder, -⟩
    exact ⟨⟨lists, hlists⟩, horder⟩
  · rintro ⟨⟨lists, hlists⟩, horder⟩
    refine ⟨lists, hlists, lines_eq hlists, horder, ?_⟩
    have hsubdirs : lists.2 = subdirsOf cfg tree option filter isVerbose (baseDir, dir) :=
      subdirs_eq (p := (baseDir, dir)) hlists
    rw [hsubdirs]
    by_cases hrecurse : listsSubdirs cfg option = true
    · rw [if_pos hrecurse]
      exact inOrder_subdirs hnames htimes hrecurse ((inOrder_listOrder_iff hnames htimes).mp horder)
    · rw [if_neg hrecurse]
      exact if_neg hrecurse

end

end

/-! ### Times around the epoch -/

/-- One file from after the epoch, and two from before. -/
def epochTree : DirTree where
  realpath := fun _ => .enoent
  getcwd := [slash]
  lstat := fun path =>
    if path = bytes "new" then some { mode := 0o100644, mtime := 5 }
    else if path = bytes "old" then some { mode := 0o100644, mtime := -1 }
    else if path = bytes "older" then some { mode := 0o100644, mtime := -2 }
    else none
  readlink := fun _ => none
  opendir := fun _ => none
  tooLong := fun _ _ => rfl

theorem yieldsListing_across_epoch :
    YieldsListing {} epochTree (bytes ".") (bytes "t") [] true 0
      ⟨[bytes "old", bytes "new"], true⟩ := by
  rw [yieldsListing_iff (by decide) (by unfold TimesFit; decide)]
  refine ⟨by decide +kernel, fun _ name _ stat hstat => ?_, ?_⟩
  · have hfile : 0 ≤ stat.size ∧ 0 ≤ stat.uid ∧ 0 ≤ stat.gid := by
      unfold entryStat epochTree at hstat
      dsimp only at hstat
      split_ifs at hstat <;> cases hstat <;> decide
    exact ⟨hfile.1, fun _ _ => hfile.2.1, fun _ _ => hfile.2.2, rfl⟩
  · unfold OneNegativeTime
    decide +kernel

/-- Of two files from before the epoch the older comes first. -/
theorem listing_before_epoch :
    (dirNames ⟨[bytes "old", bytes "older"], true⟩).Nodup ∧
      TimesFit epochTree (bytes ".") (dirNames ⟨[bytes "old", bytes "older"], true⟩) ∧
      vsfLsPopulateDirList {} epochTree 0 ⟨[bytes "old", bytes "older"], true⟩ (bytes ".")
        (bytes "t") [] false = .ok ([bytes "older\r\n", bytes "old\r\n"], []) ∧
      entryTime epochTree (bytes ".") (bytes "older") <
        entryTime epochTree (bytes ".") (bytes "old") ∧
      ¬ YieldsListing {} epochTree (bytes ".") (bytes "t") [] false 0
        ⟨[bytes "old", bytes "older"], true⟩ := by
  refine ⟨by decide, by unfold TimesFit; decide, by decide +kernel, by decide, ?_⟩
  rintro ⟨-, -, -, horder, -⟩
  have hlist : listOrder {} epochTree (bytes ".") (bytes "t") [] false
      ⟨[bytes "old", bytes "older"], true⟩ = [bytes "older", bytes "old"] := by
    decide +kernel
  have hsorted := horder.sorted
  rw [hlist] at hsorted
  have hbefore := List.rel_of_pairwise_cons hsorted (List.mem_singleton_self _)
  unfold Before Precedes at hbefore
  exact absurd hbefore (by decide)

end Vsftpd.Session
