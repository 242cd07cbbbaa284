import Vsftpd.Session.DirWalk
import Vsftpd.Session.Guarantees

/-!
# Access control and listings

The name that a listing is asked for is checked as a whole.  What is opened instead of
it, and what the recursion opens, is not.
-/

namespace Vsftpd.Session

open Vsftpd.Lib

variable {W : Type} {cfg : Tunables} {k : Kernel W} {base : VsfSession} {start s : State W}
  {tree : W → DirTree}

/-- The kernel serves a directory tree that changes only by the session's own changes of
names. -/
structure ShowsTree (k : Kernel W) (tree : W → DirTree) : Prop where
  paths : ∀ w, (tree w).toPathEnv = k.pathEnv w
  opens : ∀ fd path w, (k.run (.opendir fd path) w).1 = ((tree w).opendir path).isSome
  keeps : KeepsFs k fun w => (tree w, k.getpwnamHomedir w)

/-- What a directory must satisfy to be listed on request. -/
def PlaceOk (cfg : Tunables) (env : PathEnv) (isAnonymous : Bool) (p : Place) : Prop :=
  vsfAccessCheckFile env cfg.denyFile p.1 = true ∧
    (isAnonymous = true → cfg.anonWorldReadableOnly = true → p.2.readableOther = true)

/-- The entries of the directory at a path. -/
def DirTree.entriesOf (tree : DirTree) (path : Bytes) : List Bytes :=
  ((tree.opendir path).map Dir.entries).getD []

/-- The open directory, as its descriptor shows it. -/
def openDir (k : Kernel W) (tree : DirTree) (w : W) (fd : Fd) (path : Bytes) : Dir where
  entries := tree.entriesOf path
  readableOther := ((k.fstat w fd).map Statbuf.readableOther).getD false

/-- Whatever becomes of its writes, the listing shows directories only that may be listed
on request. -/
def ListingOk (cfg : Tunables) (k : Kernel W) (tree : W → DirTree) (isAnonymous : Bool)
    (s : State W) (fd : Fd) (dir option filter : Bytes) (fullDetails : Bool) : Prop :=
  ∀ (V : Type) (io : ListIo V) (v : V),
    wp ⟨fun e => PlaceOk cfg (k.pathEnv s.world) isAnonymous (e.path, e.dir), fun _ => True⟩
      (transferDir cfg (tree s.world) io dir (openDir k (tree s.world) s.world fd dir) option
        filter fullDetails)
      (fun _ _ => True) v

/-! ## The condition -/

def givenName (cfg : Tunables) (k : Kernel W) (start : State W) : Bytes :=
  listNameAt cfg k start start.world

/-- The name that was given is that of a directory. -/
def namesDir (cfg : Tunables) (k : Kernel W) (tree : W → DirTree) (start : State W) : Bool :=
  ((tree start.world).opendir (givenName cfg k start)).isSome

/-- The directory and the filter that the command lists. -/
def listTarget (cfg : Tunables) (k : Kernel W) (tree : W → DirTree) (start : State W) :
    Bytes × Bytes :=
  listNames (givesName start) (namesDir cfg k tree start) (givenName cfg k start)

def isStat (cfg : Tunables) (start : State W) : Bool :=
  commandFor cfg start.session = .statFile

def givesDetails (cfg : Tunables) (start : State W) : Bool :=
  commandFor cfg start.session ≠ .nlst

/-- The directory before it is opened; who may read it is seen then. -/
def targetPlace (cfg : Tunables) (k : Kernel W) (tree : W → DirTree) (start : State W) : Place :=
  ((listTarget cfg k tree start).1,
    ⟨(tree start.world).entriesOf (listTarget cfg k tree start).1, false⟩)

/-- The command lists the directory that it names, or else one that may be listed or of
which nothing is shown; and so for each directory that it gets to below. -/
structure ListsWithin (cfg : Tunables) (k : Kernel W) (tree : W → DirTree) (isAnonymous : Bool)
    (start : State W) : Prop where
  target : (givesName start = true ∧ namesDir cfg k tree start = true) ∨
    (Listable cfg (tree start.world) (listOption (isStat cfg start) start)
        (listTarget cfg k tree start).2 (givesDetails cfg start) (targetPlace cfg k tree start) →
      Shows cfg (tree start.world) (listOption (isStat cfg start) start)
        (listTarget cfg k tree start).2 (givesDetails cfg start) (targetPlace cfg k tree start) →
      vsfAccessCheckFile (k.pathEnv start.world) cfg.denyFile (listTarget cfg k tree start).1 =
        true)
  below : ∀ p q,
    Enters cfg (tree start.world) (listOption (isStat cfg start) start)
      (listTarget cfg k tree start).2 (givesDetails cfg start) (targetPlace cfg k tree start) p →
    Within cfg (tree start.world) (listOption (isStat cfg start) start)
      (listTarget cfg k tree start).2 (givesDetails cfg start) p q →
    Listable cfg (tree start.world) (listOption (isStat cfg start) start)
      (listTarget cfg k tree start).2 (givesDetails cfg start) q →
    Shows cfg (tree start.world) (listOption (isStat cfg start) start)
      (listTarget cfg k tree start).2 (givesDetails cfg start) q →
    PlaceOk cfg (k.pathEnv start.world) isAnonymous q

/-! ## What was asked for is what is listed -/

theorem listNameAt_congr {w w' : W} (h : k.getpwnamHomedir w = k.getpwnamHomedir w') :
    listNameAt cfg k start w = listNameAt cfg k start w' := by
  unfold listNameAt resolveName
  rw [h]

abbrev treeView (k : Kernel W) (tree : W → DirTree) (w : W) :
    DirTree × (Bytes → Option Bytes) :=
  (tree w, k.getpwnamHomedir w)

theorem ListRequest.target {dir option filter : Bytes} {fullDetails : Bool}
    (hk : ShowsTree k tree)
    (h : ListRequest cfg k (treeView k tree) start dir option filter fullDetails) :
    (dir, filter) = listTarget cfg k tree start ∧
      (givesName start = true →
        vsfAccessCheckFile (k.pathEnv start.world) cfg.denyFile (givenName cfg k start) =
          true) := by
  obtain ⟨w, dirFd, hfs, hallowed, hnames⟩ := h.named
  have htree : tree w = tree start.world := congrArg Prod.fst hfs
  have hname : listNameAt cfg k start w = givenName cfg k start :=
    listNameAt_congr (congrArg Prod.snd hfs)
  rw [hk.opens, htree, hname] at hnames
  rw [← hk.paths, htree, hk.paths, hname] at hallowed
  exact ⟨hnames, hallowed⟩

theorem ListRequest.options {dir option filter : Bytes} {fullDetails : Bool}
    (h : ListRequest cfg k (treeView k tree) start dir option filter fullDetails) :
    option = listOption (isStat cfg start) start ∧ fullDetails = givesDetails cfg start := by
  obtain ⟨statCmd, ⟨-, hcommand⟩, hdetails, hoption⟩ := h.command
  unfold isStat givesDetails
  rw [hoption, hcommand]
  cases statCmd with
  | true =>
      rw [hdetails rfl]
      exact ⟨rfl, rfl⟩
  | false => cases fullDetails <;> exact ⟨rfl, rfl⟩

section
variable {t : DirTree} {option filter : Bytes} {isVerbose : Bool} {p p' q : Place}

/-- Only the path and the entries matter. -/
theorem pickedAt_congr (hpath : p.1 = p'.1) (hentries : p.2.entries = p'.2.entries) :
    pickedAt cfg t option filter isVerbose p = pickedAt cfg t option filter isVerbose p' := by
  unfold pickedAt pickedNames dirNames
  rw [hpath, hentries]

theorem Listable.congr (hpath : p.1 = p'.1) (hentries : p.2.entries = p'.2.entries)
    (h : Listable cfg t option filter isVerbose p) :
    Listable cfg t option filter isVerbose p' := by
  obtain ⟨hroom, hprintable⟩ := h
  rw [pickedAt_congr hpath hentries] at hroom hprintable
  rw [hpath] at hprintable
  exact ⟨hroom, hprintable⟩

theorem Shows.congr (hpath : p.1 = p'.1) (hentries : p.2.entries = p'.2.entries)
    (h : Shows cfg t option filter isVerbose p) : Shows cfg t option filter isVerbose p' := by
  unfold Shows at h ⊢
  rwa [← pickedAt_congr hpath hentries]

theorem Enters.congr (hpath : p.1 = p'.1) (hentries : p.2.entries = p'.2.entries)
    (h : Enters cfg t option filter isVerbose p q) :
    Enters cfg t option filter isVerbose p' q := by
  obtain ⟨hlistable, earlier, name, later, hsplit, hearlier, hopens⟩ := h
  have hsubdirs : subdirsOf cfg t option filter isVerbose p =
      subdirsOf cfg t option filter isVerbose p' := by
    unfold subdirsOf
    rw [pickedAt_congr hpath hentries, hpath]
  have hopensAll (other : Bytes) (r : Place) : Opens t p other r ↔ Opens t p' other r := by
    unfold Opens
    rw [hpath]
  refine ⟨hlistable.congr hpath hentries, earlier, name, later, hsubdirs.symm.trans hsplit, ?_, ?_⟩
  · intro other hother r hr
    exact hearlier other hother r ((hopensAll other r).mpr hr)
  · exact (hopensAll name q).mp hopens

end

/-- The directories of a listing are in order exactly when the command stays within. -/
theorem ListsFor.listingOk_iff {fd : Fd} {dir option filter : Bytes} {fullDetails : Bool}
    (hk : ShowsTree k tree)
    (h : ListsFor cfg k base (treeView k tree) start s fd dir option filter fullDetails) :
    ListingOk cfg k tree base.isAnonymous s fd dir option filter fullDetails ↔
      ListsWithin cfg k tree base.isAnonymous start := by
  obtain ⟨htarget, hallowed⟩ := h.toListRequest.target hk
  obtain ⟨rfl, rfl⟩ := h.toListRequest.options
  have htree : tree s.world = tree start.world := congrArg Prod.fst h.fs
  have henv : k.pathEnv s.world = k.pathEnv start.world := by
    rw [← hk.paths, htree, hk.paths]
  obtain rfl : dir = (listTarget cfg k tree start).1 := congrArg Prod.fst htarget
  obtain rfl : filter = (listTarget cfg k tree start).2 := congrArg Prod.snd htarget
  have hreadable (hanon : base.isAnonymous = true) (hworld : cfg.anonWorldReadableOnly = true) :
      (openDir k (tree start.world) s.world fd (listTarget cfg k tree start).1).readableOther =
        true := by
    obtain ⟨statbuf, hstat, hother⟩ := h.readable hanon hworld
    show ((k.fstat s.world fd).map Statbuf.readableOther).getD false = true
    rw [hstat]
    exact hother
  unfold ListingOk
  rw [htree, henv]
  rw [transferDir_shows_iff cfg (tree start.world) _ _ _ ((listTarget cfg k tree start).1, _)
    (PlaceOk cfg (k.pathEnv start.world) base.isAnonymous)]
  obtain ⟨opened, hopened⟩ : ∃ p : Place, p = ((listTarget cfg k tree start).1,
    openDir k (tree start.world) s.world fd (listTarget cfg k tree start).1) := ⟨_, rfl⟩
  have hpath : opened.1 = (targetPlace cfg k tree start).1 := by
    rw [hopened]
    rfl
  have hentries : opened.2.entries = (targetPlace cfg k tree start).2.entries := by
    rw [hopened]
    rfl
  rw [← hopened]
  constructor
  · intro hall
    constructor
    · by_cases hnamed : givesName start = true ∧ namesDir cfg k tree start = true
      · exact .inl hnamed
      · refine .inr fun hlistable hshows => ?_
        have hplace := hall opened .refl (hlistable.congr hpath.symm hentries.symm)
          (hshows.congr hpath.symm hentries.symm)
        exact hpath ▸ hplace.1
    · intro p q henters hwithin hlistable hshows
      exact hall q (.head (henters.congr hpath.symm hentries.symm) hwithin) hlistable hshows
  · intro hwithin q hq hlistable hshows
    rcases hq.cases_head with rfl | ⟨p, henters, hrest⟩
    · rw [hopened]
      refine ⟨?_, hreadable⟩
      rcases hwithin.target with ⟨hgiven, hnames⟩ | hpasses
      · have hwhole : (listTarget cfg k tree start).1 = givenName cfg k start := by
          unfold listTarget listNames
          rw [hgiven, hnames]
          rfl
        show vsfAccessCheckFile _ _ (listTarget cfg k tree start).1 = true
        rw [hwhole]
        exact hallowed hgiven
      · exact hpasses (hlistable.congr hpath hentries) (hshows.congr hpath hentries)
    · exact hwithin.below p q (henters.congr hpath hentries) hrest hlistable hshows

/-- In every run each listing shows only what may be listed on request, exactly when its
command stays within. -/
theorem everyListing_ok_iff (cfg : Tunables) (k : Kernel W) (tree : W → DirTree)
    (sess : VsfSession) (world : W) (n : Nat) (hk : ShowsTree k tree) :
    EveryEvent cfg k (atLogin cfg sess world) n fun start e =>
      ∀ fd dir option filter isControl fullDetails,
        e.call = .transferDir fd dir option filter isControl fullDetails →
        (ListingOk cfg k tree sess.isAnonymous e.before fd dir option filter fullDetails ↔
          ListsWithin cfg k tree sess.isAnonymous start) := by
  have hok : EveryEvent cfg k (atLogin cfg sess world) n
      (EventOk cfg k (atLogin cfg sess world).session (treeView k tree)) :=
    everyEvent_ok hk.keeps (loopInv_atLogin cfg sess world (treeView k tree)) n
  have hlisting (start : State W) (e : Event W)
      (he : EventOk cfg k (atLogin cfg sess world).session (treeView k tree) start e)
      (fd : Fd) (dir option filter : Bytes) (isControl fullDetails : Bool)
      (hcall : e.call = .transferDir fd dir option filter isControl fullDetails) :
      ListingOk cfg k tree sess.isAnonymous e.before fd dir option filter fullDetails ↔
        ListsWithin cfg k tree sess.isAnonymous start := by
    have hissued := he.issued
    unfold Issued at hissued
    rw [hcall] at hissued
    have hiff := hissued.2.listingOk_iff hk
    exact hiff
  exact hok.mono (fun e he => hlisting _ e he) fun _ start e _ _ he => hlisting start e he

/-! ### A directory that is denied -/

/-- `/secret` with a key in it, seen from `/`. -/
def sampleTree : DirTree where
  realpath := fun path =>
    if path = bytes "." then .found [slash]
    else if path = bytes "secret" ∨ path = bytes "./secret" then .found (bytes "/secret")
    else if path = bytes "./secret/key" then .found (bytes "/secret/key")
    else .enoent
  getcwd := [slash]
  lstat := fun path =>
    if path = bytes "secret" then some { mode := 0o040755 }
    else if path = bytes "./secret/key" then some { mode := 0o100644 }
    else none
  readlink := fun _ => none
  opendir := fun path =>
    if path = bytes "." then some ⟨[bytes "secret"], true⟩
    else if path = bytes "secret" ∨ path = bytes "./secret" then some ⟨[bytes "key"], true⟩
    else none
  tooLong := by
    intro path hlong
    have hshort (name : Bytes) (h : name.length < vsftpPathMax) : path ≠ name := by
      rintro rfl
      exact absurd hlong (Nat.not_le.mpr h)
    rw [if_neg (hshort _ (by decide)),
      if_neg (not_or.mpr ⟨hshort _ (by decide), hshort _ (by decide)⟩)]

def treeKernel : Kernel Script where
  run := fun c w =>
    match c with
    | .opendir _ path => ((sampleTree.opendir path).isSome, w)
    | c => scriptKernel.run c w
  pathEnv := fun _ => sampleTree.toPathEnv
  stat := fun _ _ => none
  fstat := fun _ _ => some ⟨.directory, true, 0, 0, 0⟩
  fileread := scriptKernel.fileread
  getpwnamHomedir := scriptKernel.getpwnamHomedir
  inetAton := scriptKernel.inetAton
  mktime := scriptKernel.mktime
  numericDate := scriptKernel.numericDate

theorem showsTree_sample : ShowsTree treeKernel fun _ => sampleTree where
  paths := fun _ => rfl
  opens := fun _ _ _ => rfl
  keeps := fun _ _ _ => rfl

/-- What is in a directory is listed with it, unless its name ends in `secret`. -/
def secretDenied : Tunables where
  denyFile := some (bytes "*secret")
  lsRecurseEnable := true

def statLogin (line : String) : State Script :=
  atLogin secretDenied (localClient false) { lines := [bytes line] }

theorem everyListing_ok_iff_here :
    EveryEvent secretDenied treeKernel (statLogin "STAT .") 1 fun start e =>
      ∀ fd dir option filter isControl fullDetails,
        e.call = .transferDir fd dir option filter isControl fullDetails →
        (ListingOk secretDenied treeKernel (fun _ => sampleTree) false e.before fd dir option
            filter fullDetails ↔
          ListsWithin secretDenied treeKernel (fun _ => sampleTree) false start) :=
  everyListing_ok_iff secretDenied treeKernel (fun _ => sampleTree) (localClient false) _ 1
    showsTree_sample

def statRecursive : State Script :=
  (vsfCmdioGetCmdAndArg secretDenied treeKernel
    (processPostLogin secretDenied treeKernel 0 (statLogin "STAT -R")).2.1).2.1

theorem statRecursive_lists :
    (.transferDir 3 (bytes ".") (bytes "Ra") [] true true) ∈
      (serveCommand secretDenied treeKernel statRecursive).1.map (·.call) := by
  have hcall : ((serveCommand secretDenied treeKernel statRecursive).1.map (·.call))[3]? =
      some (.transferDir 3 (bytes ".") (bytes "Ra") [] true true) := by
    decide +kernel
  exact List.mem_of_getElem? hcall

theorem secret_emitted :
    bytes "./secret" ∈ (transferDir secretDenied sampleTree successIo (bytes ".")
      ⟨[bytes "secret"], true⟩ (bytes "Ra") [] true []).1.map (·.path) := by
  have hpath : ((transferDir secretDenied sampleTree successIo (bytes ".")
      ⟨[bytes "secret"], true⟩ (bytes "Ra") [] true []).1.map (·.path))[1]? =
      some (bytes "./secret") := by
    decide +kernel
  exact List.mem_of_getElem? hpath

theorem secret_denied :
    vsfAccessCheckFile sampleTree.toPathEnv secretDenied.denyFile (bytes "./secret") = false := by
  decide +kernel

/-- `STAT -R` lists the directory that is denied. -/
theorem statRecursive_lists_secret :
    ShowsTree treeKernel (fun _ => sampleTree) ∧
      ¬ EveryEvent secretDenied treeKernel (statLogin "STAT -R") 1 fun _ e =>
        ∀ fd dir option filter isControl fullDetails,
          e.call = .transferDir fd dir option filter isControl fullDetails →
          ListingOk secretDenied treeKernel (fun _ => sampleTree) false e.before fd dir option
            filter fullDetails := by
  refine ⟨showsTree_sample, fun h => ?_⟩
  obtain ⟨e, he, hcall⟩ := List.mem_map.mp statRecursive_lists
  have hok := h.serving 0 statRecursive (by decide) ⟨_, rfl, rfl⟩ e he _ _ _ _ _ _ hcall
  obtain ⟨emitted, hemitted, hpath⟩ := List.mem_map.mp secret_emitted
  have hplace := ((hok (List Int) successIo []).1 emitted hemitted).1
  change vsfAccessCheckFile sampleTree.toPathEnv secretDenied.denyFile emitted.path = true at hplace
  rw [hpath, secret_denied] at hplace
  exact absurd hplace (by decide)

end Vsftpd.Session
