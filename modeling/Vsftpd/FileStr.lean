import Vsftpd.MyStr.Holds
import Vsftpd.SecBufRelease
import Vsftpd.SysIo

/-!
# A file as a string

`str_fileread` of `filestr.c`: the file is read into a secure buffer, whose size is that of
the file as an `unsigned int`, or the greatest that is allowed.
-/

namespace Vsftpd.FileStr

open Vsftpd.Lib Vsftpd.Lib.Pages Vsftpd.Lib.CheckedC Vsftpd.Lib.PartialTransfer Vsftpd.MyStr
  Vsftpd.SecBuf Vsftpd.SysIo

/-- What `fstat` says of an open file, how it answers reads, and its contents. -/
structure OpenFile where
  isRegfile : Bool
  stSize : Int
  answers : List Answer
  stream : Bytes

/-- The return value, the string and the address space. -/
structure Loaded where
  retval : Int
  str : Mystr
  space : Space

def secbufCall {α : Type} : Except SecBuf.Fault α → StrM α
  | .ok a => pure a
  | .error (.die text) => throw (.die text)
  | .error .trap => throw .trap

def vsfSysutilStatbufGetSize (stSize : Int) : StrM Int :=
  if stSize < 0 then throw (.die "invalid inode size in vsf_sysutil_statbuf_get_size")
  else pure stSize

/-- `sec_buf.p_ptr`, as a block of its own. -/
def bufferPtr (size : Nat) : ArrayPtr Unit := .start () size

section
variable (mem : Memory) (sys : Placement) (pageSize : Nat)

/-- From `free_out` on. -/
def freeOut (secBuf : Secbuf) (loaded : Loaded) : StrM (Option Loaded) := do
  let (_, space) ← secbufCall (vsfSecbufFree pageSize secBuf loaded.space)
  pure (some { loaded with space := space })

/-- What is done with the result of the read. -/
def keepContents (secBuf : Secbuf) (str : Mystr) (space : Space) :
    Outcome × Source Unit → StrM (Option Loaded)
  | (.returned retval, io) =>
    if retval < 0 then freeOut pageSize secBuf ⟨retval, str, space⟩
    else if unsignedInt retval ≠ secBuf.size then throw (.die "read size mismatch")
    else do
      let str ← privateStrAllocMemchunk mem str
        ((bufferPtr secBuf.size).bytes secBuf.size io.mem)
      freeOut pageSize secBuf ⟨retval, str, space⟩
  | (.died text, _) => throw (.die text)
  | (.bounds, _) => throw .trap
  | (.fuel, _) | (.waiting, _) => pure none

def readRegfile (str : Mystr) (file : OpenFile) (maxsize : Nat) (space : Space) :
    StrM (Option Loaded) := do
  let size ← vsfSysutilStatbufGetSize file.stSize
  let secbufSize := unsignedInt size
  let (_, space) ← secbufCall (vsfSecbufFree pageSize { size := 0 } space)
  let secbufSize := if secbufSize > maxsize then maxsize else secbufSize
  let (secBuf, space) ← secbufCall (vsfSecbufAlloc sys pageSize { size := secbufSize } space)
  keepContents mem pageSize secBuf str space
    (vsfSysutilReadLoop (bufferPtr secBuf.size) secBuf.size
      ⟨file.answers, file.stream, fun _ _ => 0⟩)

/-- Without a result a read has not returned. -/
def strFileread (pStr : Mystr) (opened : Except Int OpenFile) (maxsize : Nat) (space : Space) :
    StrM (Option Loaded) := do
  let str ← strEmpty mem pStr
  match opened with
  | .error fd => pure (some ⟨fd, str, space⟩)
  | .ok file =>
    if file.isRegfile then readRegfile mem sys pageSize str file maxsize space
    else freeOut pageSize { size := 0 } ⟨0, str, space⟩

end

/-! ## Reading a file that can be read -/

/-- A regular file whose parts can be read, each from the beginning on. -/
structure Readable (file : OpenFile) : Prop where
  isRegfile : file.isRegfile = true
  size : file.stSize = file.stream.length
  reads : ∀ n ≤ file.stream.length,
    (run again file.answers n file.stream).ending = if n = 0 then .closed else .full

/-- It hands out what is asked for. -/
def readableFile (n : Nat) : OpenFile := ⟨true, n, [.moved n], List.replicate n 97⟩

theorem readableFile_readable (n : Nat) : Readable (readableFile n) := by
  have hlen : (readableFile n).stream.length = n := List.length_replicate
  refine ⟨rfl, by rw [hlen]; rfl, fun k hk => ?_⟩
  rw [hlen] at hk
  have htaken : (taken n k (readableFile n).stream).length = k := by
    unfold taken
    rw [List.length_take, hlen]
    omega
  show (run again [.moved n] k _).ending = _
  rw [run]
  by_cases hzero : k = 0
  · rw [if_pos hzero, if_pos (List.length_eq_zero_iff.mp (by rw [htaken, hzero]))]
  · have hnone : taken n k (readableFile n).stream ≠ [] := by
      intro h
      rw [h] at htaken
      exact hzero htaken.symm
    rw [if_neg hzero, if_neg hnone, if_pos htaken]

section
variable {file : OpenFile} {n : Nat}

theorem Readable.moved (h : Readable file) (hn : n ≤ file.stream.length) :
    (run again file.answers n file.stream).moved = file.stream.take n := by
  have hreads := h.reads n hn
  have happend : (run again file.answers n file.stream).moved ++
      (run again file.answers n file.stream).left = file.stream := run_moved_append_left _ _ _
  have hlen : (run again file.answers n file.stream).moved.length = n := by
    rcases Nat.eq_zero_or_pos n with hzero | hpos
    · have hle : (run again file.answers n file.stream).moved.length ≤ n :=
        run_moved_length_le _ _ _
      omega
    · rw [if_neg (Nat.ne_of_gt hpos)] at hreads
      exact (run_full_iff hpos _ _).mp hreads
  calc (run again file.answers n file.stream).moved
      = ((run again file.answers n file.stream).moved ++
          (run again file.answers n file.stream).left).take n := by
        rw [List.take_left' hlen]
    _ = file.stream.take n := by rw [happend]

/-- All that was asked for is in the buffer. -/
theorem Readable.readLoop (h : Readable file) (hn : n ≤ file.stream.length) (hint : n ≤ intMax)
    (mem : Mem Unit) :
    ∃ io, vsfSysutilReadLoop (bufferPtr n) n ⟨file.answers, file.stream, mem⟩ =
        (.returned n, io) ∧ (bufferPtr n).bytes n io.mem = file.stream.take n := by
  have hreads := h.reads n hn
  have hmoved := h.moved hn
  have hlen : (file.stream.take n).length = n := List.length_take_of_le hn
  refine ⟨_, (vsfSysutilReadLoop_run rfl (Int.le_refl 0) (by show 0 + (n : Int) ≤ n; omega) hint
    ⟨file.answers, file.stream, mem⟩).trans (Prod.ext ?_ rfl), ?_⟩
  · show readOutcome 0 _ = _
    unfold readOutcome outcomeOf
    dsimp only
    rw [hreads, hmoved, hlen, Nat.zero_add]
    split_ifs <;> rfl
  · dsimp only
    rw [hmoved]
    have hbytes : (bufferPtr n).bytes (file.stream.take n).length
        ((bufferPtr n).fill (file.stream.take n) mem) = file.stream.take n :=
      ArrayPtr.bytes_fill rfl
    rwa [hlen] at hbytes

end

/-! ## What is loaded -/

/-- The string is the beginning of the file, or empty where there is none. -/
def Loads (opened : Except Int OpenFile) (maxsize : Nat) (loaded : Loaded) : Prop :=
  match opened with
  | .error fd => loaded.retval = fd ∧ Holds loaded.str []
  | .ok file =>
    0 ≤ loaded.retval ∧ Holds loaded.str (file.stream.take (min file.stream.length maxsize))

/-- The size that is asked for. -/
def askedSize (file : OpenFile) (maxsize : Nat) : Nat :=
  min (file.stream.length % 2 ^ 32) maxsize

/-- The size of the file is an `unsigned int`, or not less than the greatest size when it is
cut to one.  Of what is to be read the pages fit in an `unsigned int`, and the size in an
`int` with two bytes to spare. -/
structure Fits (pageSize : Nat) (file : OpenFile) (maxsize : Nat) : Prop where
  size : file.stream.length < 2 ^ 32 ∨ maxsize ≤ file.stream.length % 2 ^ 32
  pages : mapped pageSize (min file.stream.length maxsize) < 2 ^ 32
  isInt : min file.stream.length maxsize + 2 ≤ intMax

section
variable {mem : Memory} {sys : Placement} {pageSize start : Nat} {file : OpenFile} {str : Mystr}
  {text other : Bytes} {space : Space} {maxsize : Nat}

theorem askedSize_le : askedSize file maxsize ≤ file.stream.length := by
  unfold askedSize
  have := Nat.mod_le file.stream.length (2 ^ 32)
  omega

theorem askedSize_eq_iff (hmaxsize : maxsize < 2 ^ 32) :
    askedSize file maxsize = min file.stream.length maxsize ↔
      file.stream.length < 2 ^ 32 ∨ maxsize ≤ file.stream.length % 2 ^ 32 := by
  unfold askedSize
  omega

theorem fits_iff (hmaxsize : maxsize < 2 ^ 32) :
    Fits pageSize file maxsize ↔
      askedSize file maxsize = min file.stream.length maxsize ∧
        mapped pageSize (askedSize file maxsize) < 2 ^ 32 ∧
        askedSize file maxsize + 2 ≤ intMax := by
  constructor
  · intro h
    have hasked := (askedSize_eq_iff hmaxsize).mpr h.size
    rw [hasked]
    exact ⟨rfl, h.pages, h.isInt⟩
  · rintro ⟨hasked, hpages, hint⟩
    have hsize := (askedSize_eq_iff hmaxsize).mp hasked
    rw [hasked] at hpages hint
    exact ⟨hsize, hpages, hint⟩

theorem readRegfile_eq (h : Readable file) :
    readRegfile mem sys pageSize str file maxsize space = (do
      let (secBuf, space) ← secbufCall
        (vsfSecbufAlloc sys pageSize { size := askedSize file maxsize } space)
      keepContents mem pageSize secBuf str space
        (vsfSysutilReadLoop (bufferPtr secBuf.size) secBuf.size
          ⟨file.answers, file.stream, fun _ _ => 0⟩)) := by
  have hasked : (if unsignedInt file.stSize > maxsize then maxsize else unsignedInt file.stSize) =
      askedSize file maxsize := by
    unfold askedSize unsignedInt
    rw [h.size]
    split_ifs <;> omega
  unfold readRegfile vsfSysutilStatbufGetSize
  rw [h.size, if_neg (by omega), pure_bind, vsfSecbufFree_null rfl, secbufCall, pure_bind]
  dsimp only
  rw [← h.size, hasked]

theorem keepContents_returned {secBuf : Secbuf} {io : Source Unit}
    (hint : secBuf.size ≤ intMax) :
    keepContents mem pageSize secBuf str space (.returned secBuf.size, io) = (do
      let str ← privateStrAllocMemchunk mem str ((bufferPtr secBuf.size).bytes secBuf.size io.mem)
      freeOut pageSize secBuf ⟨secBuf.size, str, space⟩) := by
  have hsame : ¬ unsignedInt secBuf.size ≠ secBuf.size :=
    not_not.mpr (unsignedInt_natCast hint)
  rw [keepContents, if_neg (by omega), if_neg hsame]

theorem freeOut_eq {secBuf : Secbuf} {loaded : Loaded} {space' : Space}
    (hfree : vsfSecbufFree pageSize secBuf loaded.space = .ok (secBuf, space')) :
    freeOut pageSize secBuf loaded = pure (some { loaded with space := space' }) := by
  unfold freeOut
  rw [hfree, secbufCall, pure_bind]

/-- When the size fits, the call is down to the copy. -/
theorem readRegfile_fits (h : Readable file) (hpage : 0 < pageSize)
    (hpages : mapped pageSize (askedSize file maxsize) < 2 ^ 32)
    (hint : askedSize file maxsize ≤ intMax)
    (hplace : sys.place space (pagesFor pageSize (askedSize file maxsize) + 2) = some start) :
    ∃ space', readRegfile mem sys pageSize str file maxsize space = (do
      let str ← privateStrAllocMemchunk mem str (file.stream.take (askedSize file maxsize))
      pure (some ⟨askedSize file maxsize, str, space'⟩)) := by
  obtain ⟨io, hread, hbytes⟩ := h.readLoop askedSize_le hint fun _ _ => 0
  have halloc : vsfSecbufAlloc sys pageSize { size := askedSize file maxsize } space =
      .ok (_, guardPages space start (pagesFor pageSize (askedSize file maxsize))) :=
    vsfSecbufAlloc_ok hpage hpages (vsfSecbufFree_null rfl space) hplace
  have hfirst : (guardPages space start (pagesFor pageSize (askedSize file maxsize))
      start).isSome = true := by
    unfold guardPages
    rw [put_inside (Nat.le_refl _) (by omega)]
    rfl
  have hfree : vsfSecbufFree pageSize (Secbuf.placed { size := askedSize file maxsize } _ _) _ =
      .ok (_, _) :=
    vsfSecbufFree_placed hpage hpages (sys.pos _ _ _ hplace) hfirst
  have hsize : (Secbuf.placed { size := askedSize file maxsize } pageSize start).size =
      askedSize file maxsize := rfl
  rw [readRegfile_eq h, halloc, secbufCall, pure_bind]
  dsimp only
  generalize Secbuf.placed { size := askedSize file maxsize } pageSize start = secBuf at *
  rw [← hsize] at hread hbytes hint ⊢
  refine ⟨(guardPages space start (pagesFor pageSize secBuf.size)).put start
    (pagesFor pageSize secBuf.size + 1) none, ?_⟩
  rw [hread, keepContents_returned hint, hbytes]
  rw [← hsize] at hfree
  exact bind_congr fun str => freeOut_eq hfree

/-- The call returns, after so many blocks were allocated, and has loaded what it should. -/
def LoadsFrom (blocks : Nat) (call : StrM (Option Loaded)) (opened : Except Int OpenFile)
    (maxsize : Nat) : Prop :=
  ∃ loaded after, call blocks = .ok (some loaded, after) ∧ Loads opened maxsize loaded

theorem not_loadsFrom_throw {opened : Except Int OpenFile} {fault : MyStr.Fault} {n : Nat} :
    ¬ LoadsFrom n (throw fault) opened maxsize := by
  rintro ⟨loaded, after, hrun, -⟩
  cases hrun

theorem strM_bind_eq_ok {α β : Type} {m : StrM α} {f : α → StrM β} {n : Nat} {r : β × Nat}
    (h : (m >>= f) n = .ok r) : ∃ a k, m n = .ok (a, k) ∧ f a k = .ok r := by
  have hrun : (m n >>= fun p => f p.1 p.2) = .ok r := h
  obtain ⟨⟨a, k⟩, hm, hf⟩ := bind_eq_ok hrun
  exact ⟨a, k, hm, hf⟩

theorem LoadsFrom.of_bind {α : Type} {opened : Except Int OpenFile} {m : StrM α}
    {f : α → StrM (Option Loaded)} {n : Nat} (h : LoadsFrom n (m >>= f) opened maxsize) :
    ∃ a k, m n = .ok (a, k) ∧ LoadsFrom k (f a) opened maxsize := by
  obtain ⟨loaded, after, hrun, hloads⟩ := h
  obtain ⟨a, k, hm, hf⟩ := strM_bind_eq_ok hrun
  exact ⟨a, k, hm, loaded, after, hf, hloads⟩

theorem returns_of_yields {Q : Loaded → Prop} {call : StrM (Option Loaded)}
    (hmem : ∀ n, mem n ≠ none)
    (h : Yields (NoMemory mem) (fun r => ∃ loaded, r = some loaded ∧ Q loaded) call) (n : Nat) :
    ∃ loaded after, call n = .ok (some loaded, after) ∧ Q loaded := by
  have hrun := h n
  cases hcall : call n with
  | error fault =>
      rw [hcall] at hrun
      obtain ⟨k, hnone⟩ := hrun
      exact absurd hnone (hmem k)
  | ok r =>
      rw [hcall] at hrun
      obtain ⟨loaded, hsome, hq⟩ := hrun
      exact ⟨loaded, r.2, congrArg Except.ok (Prod.ext hsome rfl), hq⟩

theorem secbufCall_eq_ok {α : Type} {x : Except SecBuf.Fault α} {a : α} {n k : Nat}
    (h : secbufCall x n = .ok (a, k)) : x = .ok a := by
  cases x with
  | ok b =>
      cases h
      rfl
  | error fault => cases fault <;> cases h

/-- What a string is given is what it holds in the end. -/
theorem LoadsFrom.copied {src : Bytes} {retval : Int} {n : Nat} (hstr : Holds str text)
    (h : LoadsFrom n (do
      let str ← privateStrAllocMemchunk mem str src
      pure (some ⟨retval, str, space⟩)) (.ok file) maxsize) :
    src = file.stream.take (min file.stream.length maxsize) ∧ src.length + 2 ≤ intMax := by
  have hfilled : Yields (Unallocated mem src.length) _ (privateStrAllocMemchunk mem str src) :=
    privateStrAllocMemchunk_filled hstr
  have hcopy := hfilled n
  obtain ⟨q, k, hrun, loaded, after, hpure, -, hholds⟩ := h.of_bind
  cases hpure
  rw [hrun] at hcopy
  exact ⟨hcopy.1.eq_take.trans hholds.eq_take.symm, hcopy.1.length_add_two_le⟩

/-! ## When the file is loaded -/

theorem strFileread_regfile (h : Readable file) (pStr : Mystr) :
    strFileread mem sys pageSize pStr (.ok file) maxsize space = (do
      let str ← strEmpty mem pStr
      readRegfile mem sys pageSize str file maxsize space) :=
  bind_congr fun _ => if_pos h.isRegfile

/-- Whatever is asked for is loaded. -/
theorem strFileread_asked (h : Readable file) (hpage : 0 < pageSize) (hmem : ∀ n, mem n ≠ none)
    (hplace : ∀ n, ∃ start, sys.place space n = some start) (hstr : Holds str text)
    (hpages : mapped pageSize (askedSize file maxsize) < 2 ^ 32)
    (hint : askedSize file maxsize + 2 ≤ intMax) (n : Nat) :
    ∃ loaded after, strFileread mem sys pageSize str (.ok file) maxsize space n =
        .ok (some loaded, after) ∧
      loaded.retval = askedSize file maxsize ∧
      Holds loaded.str (file.stream.take (askedSize file maxsize)) := by
  have hlen : (file.stream.take (askedSize file maxsize)).length = askedSize file maxsize :=
    List.length_take_of_le askedSize_le
  obtain ⟨start, hstart⟩ := hplace (pagesFor pageSize (askedSize file maxsize) + 2)
  rw [strFileread_regfile h]
  apply returns_of_yields hmem
  apply Yields.bind (emptied_yields hstr)
  intro q hq
  obtain ⟨space', heq⟩ := readRegfile_fits h hpage hpages
    (Nat.le_trans (Nat.le_add_right _ 2) hint) hstart
  rw [heq]
  apply Yields.bind (copied_yields hq (by rw [hlen]; exact hint))
  intro r hr
  exact Yields.pure ⟨_, rfl, rfl, hr⟩

/-- Only a size that fits is asked for in the end. -/
theorem LoadsFrom.asked (h : Readable file) (hpage : 0 < pageSize) (hmax : pageSize < 2 ^ 32)
    (hplace : ∀ n, ∃ start, sys.place space n = some start) (hstr : Holds str text) {n : Nat}
    (hloads : LoadsFrom n (readRegfile mem sys pageSize str file maxsize space) (.ok file)
      maxsize) :
    askedSize file maxsize = min file.stream.length maxsize ∧
      mapped pageSize (askedSize file maxsize) < 2 ^ 32 ∧
      askedSize file maxsize + 2 ≤ intMax := by
  have hlen : (file.stream.take (askedSize file maxsize)).length = askedSize file maxsize :=
    List.length_take_of_le askedSize_le
  obtain ⟨start, hstart⟩ := hplace (pagesFor pageSize (askedSize file maxsize) + 2)
  have hcall := hloads
  rw [readRegfile_eq h] at hcall
  obtain ⟨⟨secBuf, space1⟩, k, hsecbuf, hread⟩ := hcall.of_bind
  obtain ⟨hpages, _, _, -, -, rfl, -⟩ :=
    vsfSecbufAlloc_eq_ok hpage hmax (secbufCall_eq_ok hsecbuf)
  have hint : askedSize file maxsize ≤ intMax := by
    by_contra hbig
    have hdied : vsfSysutilReadLoop (bufferPtr (askedSize file maxsize))
        (askedSize file maxsize) ⟨file.answers, file.stream, fun _ _ => 0⟩ =
          (.died "size too big in vsf_sysutil_read_loop",
            ⟨file.answers, file.stream, fun _ _ => 0⟩) := if_pos (Nat.lt_of_not_le hbig)
    dsimp only [Secbuf.placed] at hread
    rw [hdied] at hread
    exact not_loadsFrom_throw hread
  obtain ⟨space', heq⟩ := readRegfile_fits h hpage hpages hint hstart
  rw [heq] at hloads
  obtain ⟨htake, hroom⟩ := hloads.copied hstr
  rw [hlen] at hroom
  have hsame := congrArg List.length htake
  rw [hlen, List.length_take, Nat.min_eq_left (Nat.min_le_left _ _)] at hsame
  exact ⟨hsame, hpages, hroom⟩

/-- A file that can be read is loaded when its size fits, and the string is empty when it
cannot be opened. -/
theorem strFileread_loads_iff {opened : Except Int OpenFile}
    (hreadable : ∀ file, opened = .ok file → Readable file) (hmaxsize : maxsize < 2 ^ 32)
    (hpage : 0 < pageSize) (hmax : pageSize < 2 ^ 32) (hmem : ∀ n, mem n ≠ none)
    (hplace : ∀ n, ∃ start, sys.place space n = some start) (hstr : Holds str text) (n : Nat) :
    LoadsFrom n (strFileread mem sys pageSize str opened maxsize space) opened maxsize ↔
      ∀ file, opened = .ok file → Fits pageSize file maxsize := by
  have hempty : Yields (NoMemory mem) (Holds · []) (strEmpty mem str) := emptied_yields hstr
  cases opened with
  | error fd =>
      apply iff_of_true
      · apply returns_of_yields hmem (Q := Loads (.error fd) maxsize)
        exact Yields.bind hempty fun str hstr => Yields.pure ⟨_, rfl, rfl, hstr⟩
      · intro file hfile
        cases hfile
  | ok file =>
      have hread := hreadable file rfl
      constructor
      · intro hloads f hf
        cases hf
        rw [strFileread_regfile hread] at hloads
        obtain ⟨q, k, hrun, hrest⟩ := hloads.of_bind
        have hq := hempty n
        rw [hrun] at hq
        exact (fits_iff hmaxsize).mpr (hrest.asked hread hpage hmax hplace hq)
      · intro hfits
        obtain ⟨hasked, hpages, hint⟩ := (fits_iff hmaxsize).mp (hfits file rfl)
        obtain ⟨loaded, after, hrun, hretval, hholds⟩ :=
          strFileread_asked hread hpage hmem hplace hstr hpages hint n
        rw [hasked] at hholds
        exact ⟨loaded, after, hrun, by rw [hretval]; exact Int.natCast_nonneg _, hholds⟩

end

theorem room_lowPages (n : Nat) : ∃ start, lowPages.place (fun _ => none) n = some start :=
  ⟨1, if_pos fun _ _ => rfl⟩

theorem strFileread_loads_iff_ten :
    LoadsFrom 0 (strFileread zeroed lowPages 4096 {} (.ok (readableFile 10)) 5
      fun _ => none) (.ok (readableFile 10)) 5 := by
  have hlen : (readableFile 10).stream.length = 10 := List.length_replicate
  have hreadable : ∀ file, Except.ok (readableFile 10) = (.ok file : Except Int OpenFile) →
      Readable file := by
    intro file hfile
    cases hfile
    exact readableFile_readable 10
  have hpage : 0 < 4096 ∧ 4096 < 2 ^ 32 := by decide
  apply (strFileread_loads_iff hreadable (by decide) hpage.1 hpage.2 zeroed_ne_none
    room_lowPages .null 0).mpr
  intro file hfile
  cases hfile
  exact ⟨.inl (by rw [hlen]; decide), by rw [hlen]; decide, by rw [hlen]; decide⟩

/-- Of a file of 2^32 + 5 bytes five are loaded, when ten are allowed. -/
theorem strFileread_short : ∃ loaded after,
    strFileread zeroed lowPages 4096 {} (.ok (readableFile (2 ^ 32 + 5))) 10
        (fun _ => none) 0 = .ok (some loaded, after) ∧
      loaded.retval = 5 ∧
      Holds loaded.str ((readableFile (2 ^ 32 + 5)).stream.take 5) ∧
      ¬ Loads (.ok (readableFile (2 ^ 32 + 5))) 10 loaded := by
  have hlen : (readableFile (2 ^ 32 + 5)).stream.length = 2 ^ 32 + 5 := List.length_replicate
  have hread := readableFile_readable (2 ^ 32 + 5)
  generalize readableFile (2 ^ 32 + 5) = file at *
  have hasked : askedSize file 10 = 5 := by
    unfold askedSize
    omega
  have hpage : 0 < 4096 := by decide
  have hpages : mapped 4096 (askedSize file 10) < 2 ^ 32 := by
    rw [hasked]
    decide
  obtain ⟨loaded, after, hrun, hretval, hholds⟩ :=
    strFileread_asked hread hpage zeroed_ne_none room_lowPages .null hpages
      (by rw [hasked]; decide) 0
  rw [hasked] at hretval hholds
  refine ⟨loaded, after, hrun, hretval, hholds, fun hloads => ?_⟩
  have hsame := congrArg List.length (hholds.eq_take.trans hloads.2.eq_take.symm)
  rw [List.length_take, List.length_take, hlen] at hsame
  omega

end Vsftpd.FileStr
