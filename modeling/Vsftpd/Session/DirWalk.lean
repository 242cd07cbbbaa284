import Vsftpd.Session.StrList

/-!
# Which directories a listing shows

A listing goes down to a subdirectory when the process lives through the listing of the
directory and of the subdirectories before it.  With writes that go well it shows every
directory that it can get to; with others it shows no more.
-/

namespace Vsftpd.Session

open Vsftpd.Lib

/-- A directory under the path by which it is listed. -/
abbrev Place := Bytes × Dir

section
variable (cfg : Tunables) (tree : DirTree) (option filter : Bytes) (isVerbose : Bool)

/-- The entries of a directory that are listed. -/
def pickedAt (p : Place) : List Bytes :=
  pickedNames cfg tree (lsOptions cfg option filter isVerbose) p.1 filter p.2

/-- An entry of the directory is listed. -/
def Shows (p : Place) : Prop := pickedAt cfg tree option filter isVerbose p ≠ []

/-- The process lives through the listing of the directory: there is room for its entries,
and at some time the lines of all can be made. -/
structure Listable (p : Place) : Prop where
  room : (pickedAt cfg tree option filter isVerbose p).length ≤ maxNodes
  printable : (lsOptions cfg option filter isVerbose).isVerbose = true → ∃ currTime,
    ∀ name ∈ pickedAt cfg tree option filter isVerbose p,
      Printable cfg tree currTime (statOf tree (lsOptions cfg option filter isVerbose) p.1 name)

/-- The subdirectories, in the order in which the recursion goes to them. -/
def subdirsOf (p : Place) : List Bytes :=
  let opts := lsOptions cfg option filter isVerbose
  if listsSubdirs cfg option then
    strListSort ((pickedAt cfg tree option filter isVerbose p).filterMap fun name =>
      subdirNode opts name (statOf tree opts p.1 name)) opts.rOption
  else []

/-- What the recursion opens for a name. -/
def Opens (tree : DirTree) (p : Place) (name : Bytes) (q : Place) : Prop :=
  name ≠ bytes "." ∧ name ≠ bytes ".." ∧ q.1 = p.1 ++ [slash] ++ name ∧
    tree.opendir q.1 = some q.2

/-- The process lives through the listing of the directory and of all that is under it. -/
inductive Ends : Place → Prop where
  | intro {p : Place} (listable : Listable cfg tree option filter isVerbose p)
      (below : ∀ name ∈ subdirsOf cfg tree option filter isVerbose p,
        ∀ q, Opens tree p name q → Ends q) : Ends p

/-- The recursion gets from `p` to `q`. -/
structure Enters (p q : Place) : Prop where
  listable : Listable cfg tree option filter isVerbose p
  after : ∃ earlier name later,
    subdirsOf cfg tree option filter isVerbose p = earlier ++ name :: later ∧
      (∀ other ∈ earlier, ∀ r, Opens tree p other r → Ends cfg tree option filter isVerbose r) ∧
      Opens tree p name q

/-- The directory itself, and every one that the recursion gets to from it. -/
def Within : Place → Place → Prop :=
  Relation.ReflTransGen (Enters cfg tree option filter isVerbose)

end

section
variable {cfg : Tunables} {tree : DirTree} {option filter : Bytes} {isVerbose : Bool}
  {p q : Place} {name : Bytes} {t : Int} {lists : List Bytes × List Bytes}

/-! ## The lists -/

theorem doStat_of_listsSubdirs (h : listsSubdirs cfg option = true) :
    (lsOptions cfg option filter isVerbose).doStat = true := by
  show (_ || listsSubdirs cfg option) = true
  rw [h, Bool.or_true]

/-- The lists of a directory can be had at the time `t`. -/
theorem exists_lists_iff :
    (∃ lists, vsfLsPopulateDirList cfg tree t p.2 p.1 option filter isVerbose = .ok lists) ↔
      (pickedAt cfg tree option filter isVerbose p).length ≤ maxNodes ∧
        ((lsOptions cfg option filter isVerbose).isVerbose = true →
          ∀ name ∈ pickedAt cfg tree option filter isVerbose p,
            Printable cfg tree t
              (statOf tree (lsOptions cfg option filter isVerbose) p.1 name)) := by
  have hprintable : (∃ entries : List LsEntry,
      (pickedAt cfg tree option filter isVerbose p).map
        (entryOf cfg tree (lsOptions cfg option filter isVerbose) t p.1) = entries.map .ok) ↔
      ((lsOptions cfg option filter isVerbose).isVerbose = true →
        ∀ name ∈ pickedAt cfg tree option filter isVerbose p,
          Printable cfg tree t (statOf tree (lsOptions cfg option filter isVerbose) p.1 name)) := by
    rw [exists_map_ok_iff]
    simp only [entryOf, lsEntry_ok_iff]
    exact ⟨fun h hverbose name hname => h name hname hverbose,
      fun h name hname hverbose => h hverbose name hname⟩
  rw [← hprintable]
  simp only [populateDirList_ok_iff rfl]
  constructor
  · rintro ⟨lists, entries, hentries, hroom, -⟩
    have hlength := congrArg List.length hentries
    rw [List.length_map, List.length_map] at hlength
    exact ⟨hlength.trans_le hroom, entries, hentries⟩
  · rintro ⟨hroom, entries, hentries⟩
    have hlength := congrArg List.length hentries
    rw [List.length_map, List.length_map] at hlength
    exact ⟨_, entries, hentries, hlength.symm.trans_le hroom, rfl⟩

theorem listable_of_lists
    (h : vsfLsPopulateDirList cfg tree t p.2 p.1 option filter isVerbose = .ok lists) :
    Listable cfg tree option filter isVerbose p := by
  obtain ⟨hroom, hprintable⟩ := exists_lists_iff.mp ⟨lists, h⟩
  exact ⟨hroom, fun hverbose => ⟨t, hprintable hverbose⟩⟩

/-- Without details any time will do. -/
theorem Listable.exists_lists (h : Listable cfg tree option filter isVerbose p) :
    ∃ t lists, ((lsOptions cfg option filter isVerbose).isVerbose = false → t = 0) ∧
      vsfLsPopulateDirList cfg tree t p.2 p.1 option filter isVerbose = .ok lists := by
  cases hverbose : (lsOptions cfg option filter isVerbose).isVerbose with
  | false =>
      obtain ⟨lists, hlists⟩ := exists_lists_iff (t := 0).mpr
        ⟨h.room, fun htrue => absurd (hverbose.symm.trans htrue) (by decide)⟩
      exact ⟨0, lists, fun _ => rfl, hlists⟩
  | true =>
      obtain ⟨t, ht⟩ := h.printable hverbose
      obtain ⟨lists, hlists⟩ := exists_lists_iff.mpr ⟨h.room, fun _ => ht⟩
      exact ⟨t, lists, fun hfalse => absurd hfalse (by decide), hlists⟩

/-- There are lines when an entry is listed. -/
theorem lines_ne_nil_iff
    (h : vsfLsPopulateDirList cfg tree t p.2 p.1 option filter isVerbose = .ok lists) :
    lists.1 ≠ [] ↔ Shows cfg tree option filter isVerbose p := by
  obtain ⟨entries, hentries, -, rfl⟩ := (populateDirList_ok_iff rfl).mp h
  have hlength := congrArg List.length hentries
  rw [List.length_map, List.length_map] at hlength
  unfold strListSort Shows pickedAt
  rw [ne_eq, ne_eq, ← List.length_eq_zero_iff, ← List.length_eq_zero_iff, List.length_map,
    List.length_insertionSort, List.length_map, hlength]

theorem subdirs_eq
    (h : vsfLsPopulateDirList cfg tree t p.2 p.1 option filter isVerbose = .ok lists) :
    lists.2 = subdirsOf cfg tree option filter isVerbose p := by
  obtain ⟨entries, hentries, -, rfl⟩ := (populateDirList_ok_iff rfl).mp h
  have hsubdirs : entries.map (·.subdir) =
      (pickedAt cfg tree option filter isVerbose p).map fun name =>
        subdirNode (lsOptions cfg option filter isVerbose) name
          (statOf tree (lsOptions cfg option filter isVerbose) p.1 name) := by
    refine map_of_map_ok hentries fun name _ entry hentry => ?_
    obtain ⟨line, -, heq⟩ := bind_eq_ok hentry
    rw [← Except.ok.inj heq]
  have hnodes : entries.filterMap (·.subdir) =
      (pickedAt cfg tree option filter isVerbose p).filterMap fun name =>
        subdirNode (lsOptions cfg option filter isVerbose) name
          (statOf tree (lsOptions cfg option filter isVerbose) p.1 name) := by
    calc
      entries.filterMap (·.subdir) = (entries.map (·.subdir)).filterMap id := by
        rw [List.filterMap_map, Function.id_comp]
      _ = _ := by rw [hsubdirs, List.filterMap_map, Function.id_comp]
  unfold subdirsOf
  dsimp only
  rw [hnodes]

theorem Opens.length_lt (h : Opens tree p name q) : p.1.length < q.1.length := by
  rw [h.2.2.1, List.length_append, List.length_append, List.length_singleton]
  omega

theorem Opens.length_lt_pathMax (h : Opens tree p name q) : q.1.length < vsftpPathMax := by
  by_contra hlong
  exact absurd (h.2.2.2.symm.trans (tree.tooLong q.1 (Nat.not_lt.mp hlong))) (by simp)

/-- The depth that suffices for a directory suffices below it. -/
theorem Opens.depth (h : Opens tree p name q) {depth : Nat}
    (hdepth : vsftpPathMax ≤ depth + 1 + p.1.length) :
    vsftpPathMax ≤ depth + q.1.length ∧ 0 < depth := by
  have hlt := h.length_lt
  have hmax := h.length_lt_pathMax
  omega

end

/-! ## No others -/

section
variable {cfg : Tunables} {tree : DirTree} {option filter : Bytes} {isVerbose : Bool}
  {p q : Place} {V : Type} {io : ListIo V} {v : V} {R : Requirement Emitted ListHalt}

theorem ftpWriteStr_wp {text : Bytes} {Q : Bool → V → Prop} (hq : ∀ ok v', Q ok v') :
    wp R (ftpWriteStr io text) Q v := by
  rw [ftpWriteStr, wp_bind, wp_get, wp_bind, wp_modify, wp_pure]
  exact hq _ _

theorem listTime_wp {verbose : Bool} {Q : Int → V → Prop} (hq : ∀ time v', Q time v') :
    wp R (listTime io verbose) Q v := by
  refine wp_ite.mpr ⟨fun _ => ?_, fun _ => wp_pure.mpr (hq 0 v)⟩
  rw [wp_bind, wp_get, wp_bind, wp_modify, wp_pure]
  exact hq _ _

theorem orHalt_wp {α : Type} {x : Except LsFailure α} {Q : α → V → Prop}
    (hq : ∀ a, x = .ok a → Q a v) (hhalt : ∀ failure, R.halt (.failed failure)) :
    wp R (orHalt x) Q v := by
  cases x with
  | ok a => exact wp_pure.mpr (hq a rfl)
  | error failure => exact wp_halt.mpr (hhalt failure)

theorem writeDirPrefix_wp {baseDir : Bytes} {Q : Bool → V → Prop} (hq : ∀ ok v', Q ok v') :
    wp R (writeDirPrefix cfg io option baseDir) Q v :=
  wp_ite.mpr ⟨fun _ => ftpWriteStr_wp hq, fun _ => wp_pure.mpr (hq true v)⟩

theorem writeDirList_wp {path : Bytes} {dir : Dir} {lines : List Bytes} {buf : Bytes}
    {Q : Bool → V → Prop} (he : lines ≠ [] → ∀ text, R.event ⟨path, dir, text⟩)
    (hq : ∀ failed v', Q failed v') : wp R (writeDirList io path dir buf lines) Q v := by
  induction lines generalizing buf v with
  | nil => exact wp_pure.mpr (hq false v)
  | cons line rest ih =>
      have hevent := he (List.cons_ne_nil line rest)
      refine wp_ite.mpr ⟨fun _ => ?_, fun _ => ih fun _ => hevent⟩
      rw [wp_bind, writeLines, wp_emit]
      exact ⟨hevent _, wp_ite.mpr ⟨fun _ => ih fun _ => hevent, fun _ => wp_pure.mpr (hq true _)⟩⟩

/-- Each subdirectory is visited when those before it are done. -/
theorem subdirLoop_wp {visit : Bytes → Dir → Listing V Bool} (Done : Place → Prop)
    (earlier : List Bytes) {names rest : List Bytes} {Q : Bool → V → Prop}
    (hnames : names = earlier ++ rest)
    (hdone : ∀ name ∈ earlier, ∀ q, Opens tree p name q → Done q)
    (hvisit : ∀ earlier name later, names = earlier ++ name :: later →
      (∀ other ∈ earlier, ∀ r, Opens tree p other r → Done r) →
      ∀ q, Opens tree p name q → ∀ v',
        wp R (visit q.1 q.2) (fun failed _ => failed = false → Done q) v')
    (hq : ∀ failed v',
      (failed = false → ∀ name ∈ names, ∀ q, Opens tree p name q → Done q) → Q failed v') :
    wp R (subdirLoop tree io visit p.1 rest) Q v := by
  induction rest generalizing earlier v with
  | nil =>
      rw [List.append_nil] at hnames
      rw [← hnames] at hdone
      exact wp_pure.mpr (hq false v fun _ => hdone)
  | cons name rest ih =>
      have hsplit : names = (earlier ++ [name]) ++ rest := by
        rw [hnames, List.append_assoc, List.singleton_append]
      -- the name is done when whatever opens for it is
      have hnext (h : ∀ q, Opens tree p name q → Done q) (v' : V) :
          wp R (subdirLoop tree io visit p.1 rest) Q v' := by
        refine ih (earlier ++ [name]) hsplit fun other hother => ?_
        rcases List.mem_append.mp hother with hbefore | hlast
        · exact hdone other hbefore
        · rw [List.mem_singleton.mp hlast]
          exact h
      refine wp_ite.mpr ⟨fun hdots => hnext (fun q hq => ?_) v, fun hdots => ?_⟩
      · rcases hdots with hdot | hdot
        · exact absurd hdot hq.1
        · exact absurd hdot hq.2.1
      obtain ⟨hdot, hdotdot⟩ := not_or.mp hdots
      cases hopen : tree.opendir (p.1 ++ [slash] ++ name) with
      | none =>
          refine hnext (fun q hq => ?_) v
          rw [← hq.2.2.1, hq.2.2.2] at hopen
          cases hopen
      | some dir =>
          have hopens : Opens tree p name (p.1 ++ [slash] ++ name, dir) :=
            ⟨hdot, hdotdot, rfl, hopen⟩
          have honly (q : Place) (hq : Opens tree p name q) :
              q = (p.1 ++ [slash] ++ name, dir) := by
            have hdir := hq.2.2.2
            rw [hq.2.2.1, hopen] at hdir
            exact Prod.ext hq.2.2.1 (Option.some.inj hdir).symm
          show wp _ (enterSubdir io _ >>= _) _ _
          have henter : wp R (enterSubdir io (visit (p.1 ++ [slash] ++ name) dir))
              (fun failed _ => failed = false → Done (p.1 ++ [slash] ++ name, dir)) v := by
            rw [enterSubdir, wp_bind]
            refine ftpWriteStr_wp fun ok v' => wp_ite.mpr ⟨fun _ => ?_, fun _ => ?_⟩
            · exact hvisit earlier name rest hnames hdone _ hopens v'
            · exact wp_pure.mpr fun h => by cases h
          rw [wp_bind]
          refine henter.mono fun failed v' hfailed => wp_ite.mpr ⟨fun _ => ?_, fun hok => ?_⟩
          · exact wp_pure.mpr (hq true v' fun h => by cases h)
          · refine hnext (fun q hq => ?_) v'
            rw [honly q hq]
            exact hfailed (Bool.eq_false_iff.mpr hok)

/-- The depth suffices: a path of its length plus one more level is too long. -/
theorem transferDirInternal_wp {depth : Nat} (hdepth : vsftpPathMax ≤ depth + p.1.length)
    (hpos : 0 < depth) (hhalt : ∀ failure, R.halt (.failed failure))
    (he : ∀ q text, Within cfg tree option filter isVerbose p q →
      Listable cfg tree option filter isVerbose q →
      Shows cfg tree option filter isVerbose q → R.event ⟨q.1, q.2, text⟩) :
    wp R (transferDirInternal cfg tree io option filter isVerbose depth p.1 p.2)
      (fun failed _ => failed = false → Ends cfg tree option filter isVerbose p) v := by
  induction depth generalizing p v with
  | zero => exact absurd hpos (Nat.lt_irrefl 0)
  | succ depth ih =>
      rw [transferDirInternal, wp_bind]
      refine listTime_wp fun currTime v1 => ?_
      rw [wp_bind]
      refine orHalt_wp (fun lists hlists => ?_) hhalt
      have hlistable := listable_of_lists hlists
      rw [wp_bind]
      refine writeDirPrefix_wp fun ok v2 => wp_ite.mpr ⟨fun _ => ?_, fun _ => ?_⟩
      · exact wp_pure.mpr fun h => by cases h
      rw [wp_bind]
      refine writeDirList_wp (fun hlines text => ?_) fun failed v3 =>
        wp_ite.mpr ⟨fun _ => ?_, fun _ => ?_⟩
      · exact he p text .refl hlistable ((lines_ne_nil_iff hlists).mp hlines)
      · exact wp_pure.mpr fun h => by cases h
      rw [subdirs_eq hlists]
      refine subdirLoop_wp (Ends cfg tree option filter isVerbose) [] rfl
        (fun _ h => absurd h List.not_mem_nil) ?_ ?_
      · intro earlier name later hsplit hdone q hopens v'
        have henters : Enters cfg tree option filter isVerbose p q :=
          ⟨hlistable, earlier, name, later, hsplit, hdone, hopens⟩
        obtain ⟨hdepth', hpos'⟩ := hopens.depth hdepth
        exact ih hdepth' hpos' fun r text hwithin => he r text (.head henters hwithin)
      · intro failed v' hbelow hfailed
        exact .intro hlistable (hbelow hfailed)

end

/-! ## All of these -/

/-- Every write goes well, and the clock shows one time after the other. -/
def successIo : ListIo (List Int) := ⟨fun _ v => (true, v), fun v => (v.headD 0, v.tail)⟩

section
variable {cfg : Tunables} {tree : DirTree} {option filter : Bytes} {isVerbose : Bool}
  {p q : Place} {t : Int} {lists : List Bytes × List Bytes} {depth : Nat}

theorem reads_ftpWriteStr (text : Bytes) : (ftpWriteStr successIo text).Reads true :=
  ⟨[], fun _ => rfl⟩

theorem reads_writeDirPrefix (baseDir : Bytes) :
    (writeDirPrefix cfg successIo option baseDir).Reads true := by
  unfold writeDirPrefix
  split
  · exact reads_ftpWriteStr _
  · exact Prog.reads_pure true

theorem reads_listTime {verbose : Bool} (h : verbose = false → t = 0) :
    (listTime successIo verbose).Reads t := by
  cases verbose with
  | false =>
      rw [h rfl]
      exact Prog.reads_pure 0
  | true => exact ⟨[t], fun _ => rfl⟩

theorem reads_writeDirList {path : Bytes} {dir : Dir} {lines : List Bytes} {buf : Bytes} :
    (writeDirList successIo path dir buf lines).Reads false := by
  induction lines generalizing buf with
  | nil => exact Prog.reads_pure false
  | cons line rest ih =>
      unfold writeDirList
      split
      · exact Prog.Reads.bind (a := true) ⟨[], fun _ => rfl⟩ ih
      · exact ih

/-- A list of lines is written. -/
theorem emits_writeDirList {path : Bytes} {dir : Dir} {lines : List Bytes} {buf : Bytes}
    (hlines : lines ≠ []) :
    (writeDirList successIo path dir buf lines).Emits fun e => e.path = path ∧ e.dir = dir := by
  induction lines generalizing buf with
  | nil => exact absurd rfl hlines
  | cons line rest ih =>
      unfold writeDirList
      split_ifs with hneeded
      · exact Prog.Emits.bind ⟨[], fun _ => ⟨_, List.mem_singleton_self _, rfl, rfl⟩⟩
      · refine ih ?_
        rintro rfl
        exact hneeded rfl

theorem reads_enterSubdir {visit : Listing (List Int) Bool} (h : visit.Reads false) :
    (enterSubdir successIo visit).Reads false :=
  (reads_ftpWriteStr _).bind h

theorem reads_subdirLoop {visit : Bytes → Dir → Listing (List Int) Bool} {names : List Bytes}
    (hvisit : ∀ name ∈ names, ∀ q, Opens tree p name q → (visit q.1 q.2).Reads false) :
    (subdirLoop tree successIo visit p.1 names).Reads false := by
  induction names with
  | nil => exact Prog.reads_pure false
  | cons name rest ih =>
      have hrest := ih fun name hname => hvisit name (List.mem_cons_of_mem _ hname)
      unfold subdirLoop
      split_ifs with hdots
      · exact hrest
      · obtain ⟨hdot, hdotdot⟩ := not_or.mp hdots
        cases hopen : tree.opendir (p.1 ++ [slash] ++ name) with
        | none => exact hrest
        | some dir =>
            have hfirst := hvisit name List.mem_cons_self (p.1 ++ [slash] ++ name, dir)
              ⟨hdot, hdotdot, rfl, hopen⟩
            exact (reads_enterSubdir hfirst).bind hrest

/-- A subdirectory is visited when those before it are done. -/
theorem emits_subdirLoop {visit : Bytes → Dir → Listing (List Int) Bool} {P : Emitted → Prop}
    {earlier later : List Bytes} {name : Bytes}
    (hearlier : ∀ other ∈ earlier, ∀ r, Opens tree p other r → (visit r.1 r.2).Reads false)
    (hopens : Opens tree p name q) (hvisit : (visit q.1 q.2).Emits P) :
    (subdirLoop tree successIo visit p.1 (earlier ++ name :: later)).Emits P := by
  induction earlier with
  | nil =>
      obtain ⟨hdot, hdotdot, hpath, hopen⟩ := hopens
      rw [List.nil_append, subdirLoop, if_neg (not_or.mpr ⟨hdot, hdotdot⟩), ← hpath, hopen]
      exact ((reads_ftpWriteStr _).emits hvisit).bind
  | cons other earlier ih =>
      have hrest := ih fun name hname => hearlier name (List.mem_cons_of_mem _ hname)
      rw [List.cons_append, subdirLoop]
      split_ifs with hdots
      · exact hrest
      · obtain ⟨hdot, hdotdot⟩ := not_or.mp hdots
        cases hopen : tree.opendir (p.1 ++ [slash] ++ other) with
        | none => exact hrest
        | some dir =>
            have hfirst := hearlier other List.mem_cons_self (p.1 ++ [slash] ++ other, dir)
              ⟨hdot, hdotdot, rfl, hopen⟩
            exact (reads_enterSubdir hfirst).emits hrest

/-- A listing whose lists can be had, up to its subdirectories. -/
theorem reads_toSubdirs (ht : (lsOptions cfg option filter isVerbose).isVerbose = false → t = 0)
    (hlists : vsfLsPopulateDirList cfg tree t p.2 p.1 option filter isVerbose = .ok lists)
    (hbelow : (subdirLoop tree successIo
      (transferDirInternal cfg tree successIo option filter isVerbose depth) p.1 lists.2).Reads
        false) :
    (transferDirInternal cfg tree successIo option filter isVerbose (depth + 1) p.1 p.2).Reads
      false := by
  refine (reads_listTime ht).bind ?_
  rw [hlists]
  refine (Prog.reads_pure lists).bind ?_
  exact (reads_writeDirPrefix p.1).bind (reads_writeDirList.bind hbelow)

theorem Ends.reads (h : Ends cfg tree option filter isVerbose p)
    (hdepth : vsftpPathMax ≤ depth + p.1.length) (hpos : 0 < depth) :
    (transferDirInternal cfg tree successIo option filter isVerbose depth p.1 p.2).Reads false := by
  induction h generalizing depth with
  | intro hlistable _ ih =>
      obtain ⟨n, rfl⟩ : ∃ n, depth = n + 1 := ⟨depth - 1, by omega⟩
      obtain ⟨t, lists, ht, hlists⟩ := hlistable.exists_lists
      refine reads_toSubdirs ht hlists ?_
      rw [subdirs_eq hlists]
      refine reads_subdirLoop fun name hname q hopens => ?_
      obtain ⟨hdepth', hpos'⟩ := hopens.depth hdepth
      exact ih name hname q hopens hdepth' hpos'

/-- A listing without failures shows every directory there is to show. -/
theorem Within.emits (hwithin : Within cfg tree option filter isVerbose p q)
    (hlistable : Listable cfg tree option filter isVerbose q)
    (hshows : Shows cfg tree option filter isVerbose q)
    (hdepth : vsftpPathMax ≤ depth + p.1.length) (hpos : 0 < depth) :
    (transferDirInternal cfg tree successIo option filter isVerbose depth p.1 p.2).Emits
      fun e => e.path = q.1 ∧ e.dir = q.2 := by
  induction hwithin using Relation.ReflTransGen.head_induction_on generalizing depth with
  | refl =>
      obtain ⟨n, rfl⟩ : ∃ n, depth = n + 1 := ⟨depth - 1, by omega⟩
      obtain ⟨t, lists, ht, hlists⟩ := hlistable.exists_lists
      refine (reads_listTime ht).emits ?_
      rw [hlists]
      refine (Prog.reads_pure lists).emits ((reads_writeDirPrefix q.1).emits ?_)
      exact (emits_writeDirList ((lines_ne_nil_iff hlists).mpr hshows)).bind
  | @head p r henters _ ih =>
      obtain ⟨n, rfl⟩ : ∃ n, depth = n + 1 := ⟨depth - 1, by omega⟩
      obtain ⟨hp, earlier, name, later, hsplit, hearlier, hopens⟩ := henters
      obtain ⟨t, lists, ht, hlists⟩ := hp.exists_lists
      refine (reads_listTime ht).emits ?_
      rw [hlists]
      refine (Prog.reads_pure lists).emits ((reads_writeDirPrefix p.1).emits ?_)
      refine reads_writeDirList.emits ?_
      show (subdirLoop tree successIo _ p.1 lists.2).Emits _
      rw [subdirs_eq hlists, hsplit]
      refine emits_subdirLoop (fun other hother s hs => ?_) hopens ?_
      · obtain ⟨hdepth', hpos'⟩ := hs.depth hdepth
        exact (hearlier other hother s hs).reads hdepth' hpos'
      · obtain ⟨hdepth', hpos'⟩ := hopens.depth hdepth
        exact ih hdepth' hpos'

/-- Whatever is written to, a listing shows directories of one kind only: exactly when all
that it gets to and that have something to show are of that kind. -/
theorem transferDir_shows_iff (cfg : Tunables) (tree : DirTree) (option filter : Bytes)
    (isVerbose : Bool) (p : Place) (Ok : Place → Prop) :
    (∀ (V : Type) (io : ListIo V) (v : V),
      wp ⟨fun e => Ok (e.path, e.dir), fun _ => True⟩
        (transferDir cfg tree io p.1 p.2 option filter isVerbose) (fun _ _ => True) v) ↔
      ∀ q, Within cfg tree option filter isVerbose p q →
        Listable cfg tree option filter isVerbose q →
        Shows cfg tree option filter isVerbose q → Ok q := by
  have hdepth : vsftpPathMax ≤ vsftpPathMax + p.1.length := Nat.le_add_right _ _
  constructor
  · intro h q hwithin hlistable hshows
    obtain ⟨e, hok, hpath, hdir⟩ := (hwithin.emits hlistable hshows hdepth (by decide)).exists_event
      (h (List Int) successIo)
    change Ok (e.path, e.dir) at hok
    rwa [hpath, hdir] at hok
  · intro h V io v
    exact (transferDirInternal_wp hdepth (by decide) (fun _ => trivial)
      fun q _ hwithin hlistable hshows => h q hwithin hlistable hshows).mono fun _ _ _ => trivial

end

end Vsftpd.Session
