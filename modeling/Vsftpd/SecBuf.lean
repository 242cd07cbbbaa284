import Vsftpd.Lib.ExceptRules
import Vsftpd.Lib.Pages
import Vsftpd.Str

/-!
# Secure buffers

`secbuf.c`: a buffer that ends where a page begins which must not be touched.  The page
size is a parameter, as is the place that the system finds for a mapping.
-/

namespace Vsftpd.SecBuf

open Vsftpd.Lib Vsftpd.Lib.Pages

/-- An `unsigned int`. -/
def u32 (n : Nat) : Nat := n % 2 ^ 32

/-- Addresses are numbers, and the null pointer is 0. -/
structure Secbuf where
  pPtr : Nat := 0
  noaccessPage : Nat := 0
  size : Nat
  mapOffset : Nat := 0
  deriving DecidableEq, Repr

/-- How a call may fail: by `die()`, or by a bounds check. -/
inductive Fault where
  | die (text : String)
  | trap
  deriving DecidableEq, Repr

section
variable (sys : Placement) (pageSize : Nat)

/-! ## `sysutil.c` and `sysdeputil.c` -/

def orDie {α : Type} (text : String) : Option α → Except Fault α
  | none => .error (.die text)
  | some a => .ok a

def vsfSysutilMapAnonPages (length : Nat) (space : Space) : Except Fault (Nat × Space) :=
  orDie "mmap" (mmap sys pageSize length space)

def vsfSysutilMemprotect (addr len : Nat) (perm : Prot) (space : Space) : Except Fault Space :=
  orDie "mprotect" (mprotect pageSize addr len perm space)

def vsfSysutilMemunmap (start length : Nat) (space : Space) : Except Fault Space :=
  orDie "munmap" (munmap pageSize start length space)

/-- A pointer with the bounds from `lo` to `hi`, cast to one with `count(n)`. -/
def boundsCast (lo hi p n : Nat) : Except Fault Unit :=
  if lo ≤ p ∧ p + n ≤ hi then .ok () else .error .trap

/-! ## `secbuf.c` -/

def roundUpPageSize (bufSize : Nat) : Nat :=
  let pageOffset := bufSize % pageSize
  let roundUp :=
    if pageOffset ≠ 0 then u32 (u32 (bufSize / pageSize + 1) * pageSize) else bufSize
  u32 (roundUp + u32 (pageSize * 2))

/-- The buffer is left as it is. -/
def vsfSecbufFree (buf : Secbuf) (space : Space) : Except Fault (Secbuf × Space) :=
  if buf.pPtr = 0 then .ok (buf, space)
  else do
    let pMmapOffset := buf.pPtr - buf.mapOffset
    let hi := buf.pPtr + buf.size
    boundsCast pMmapOffset hi pMmapOffset pageSize
    let space ← vsfSysutilMemprotect pageSize pMmapOffset pageSize .readOnly space
    boundsCast pMmapOffset hi pMmapOffset (u32 (buf.size + buf.mapOffset))
    let space ← vsfSysutilMemunmap pageSize pMmapOffset (u32 (buf.size + buf.mapOffset)) space
    .ok (buf, space)

/-- The first and the last page of `roundUp` bytes are made inaccessible. -/
def mapGuarded (roundUp : Nat) (space : Space) : Except Fault (Nat × Space) := do
  let (pMmap, space) ← vsfSysutilMapAnonPages sys pageSize roundUp space
  let noAccess := pMmap + u32 (roundUp + (2 ^ 32 - pageSize))
  boundsCast noAccess (pMmap + roundUp) noAccess pageSize
  let space ← vsfSysutilMemprotect pageSize noAccess pageSize .none space
  boundsCast pMmap (pMmap + roundUp) pMmap pageSize
  let space ← vsfSysutilMemprotect pageSize pMmap pageSize .none space
  .ok (pMmap, space)

/-- `p_mmap_offset` -/
def mmapOffset (bufSize : Nat) : Nat :=
  let pageOffset := bufSize % pageSize
  if pageOffset ≠ 0 then u32 (pageSize + (pageSize - pageOffset)) else pageSize

def vsfSecbufAlloc (buf : Secbuf) (space : Space) : Except Fault (Secbuf × Space) := do
  let (buf, space) ← vsfSecbufFree pageSize buf space
  let roundUp := roundUpPageSize pageSize buf.size
  let (pMmap, space) ← mapGuarded sys pageSize roundUp space
  let offset := mmapOffset pageSize buf.size
  boundsCast pMmap (pMmap + roundUp) (pMmap + offset) buf.size
  boundsCast pMmap (pMmap + roundUp) pMmap offset
  .ok ({ buf with pPtr := pMmap + offset, noaccessPage := pMmap, mapOffset := offset }, space)

end

/-! ## The sizes -/

section
variable {pageSize size : Nat}

/-- The pages of the buffer and the two that are inaccessible, as a number of bytes. -/
def mapped (pageSize size : Nat) : Nat := (pagesFor pageSize size + 2) * pageSize

theorem pagesFor_eq (hpage : 0 < pageSize) (size : Nat) :
    pagesFor pageSize size * pageSize =
      if size % pageSize ≠ 0 then (size / pageSize + 1) * pageSize else size := by
  have hsplit := Nat.div_add_mod size pageSize
  have hrest := Nat.mod_lt size hpage
  unfold pagesFor
  by_cases hzero : size % pageSize = 0
  · have hsize : size = size / pageSize * pageSize := by
      rw [Nat.mul_comm]
      omega
    have hpages := pagesFor_mul hpage (size / pageSize)
    rw [if_neg (not_not.mpr hzero)]
    unfold pagesFor at hpages
    rw [← hsize] at hpages
    rw [hpages, ← hsize]
  · have hlast : size + pageSize - 1 =
        size % pageSize - 1 + pageSize * (size / pageSize + 1) := by
      rw [Nat.mul_add]
      omega
    rw [if_pos hzero, hlast, Nat.add_mul_div_left _ _ hpage, Nat.div_eq_of_lt (by omega),
      Nat.zero_add]

theorem roundUpPageSize_eq (hpage : 0 < pageSize) (size : Nat) :
    roundUpPageSize pageSize size = u32 (mapped pageSize size) := by
  have hpages := pagesFor_eq hpage size
  have hsum : mapped pageSize size = pagesFor pageSize size * pageSize + pageSize * 2 := by
    unfold mapped
    rw [Nat.add_mul, Nat.mul_comm 2]
  unfold roundUpPageSize
  dsimp only
  rw [hsum]
  split_ifs with hzero
  · rw [hpages, if_pos hzero]
    unfold u32
    rw [← Nat.add_mod, Nat.add_mod, Nat.mod_mul_mod, ← Nat.add_mod]
  · rw [hpages, if_neg hzero]
    unfold u32
    rw [Nat.add_mod, Nat.mod_mod, ← Nat.add_mod]

/-- The buffer and the last page are what is behind the offset. -/
theorem mmapOffset_eq (hpage : 0 < pageSize) (hmax : pageSize < 2 ^ 32) (size : Nat) :
    ∃ offset, mmapOffset pageSize size = u32 offset ∧ pageSize ≤ offset ∧
      offset < 2 * pageSize ∧ offset + size + pageSize = mapped pageSize size := by
  have hpages := pagesFor_eq hpage size
  have hsplit := Nat.div_add_mod size pageSize
  have hrest := Nat.mod_lt size hpage
  have hsum : mapped pageSize size = pagesFor pageSize size * pageSize + 2 * pageSize :=
    Nat.add_mul _ _ _
  unfold mmapOffset
  dsimp only
  by_cases hzero : size % pageSize = 0
  · rw [if_neg (not_not.mpr hzero)] at hpages ⊢
    refine ⟨pageSize, (Nat.mod_eq_of_lt hmax).symm, Nat.le_refl _, by omega, by omega⟩
  · rw [if_pos hzero, Nat.add_mul, Nat.mul_comm (size / pageSize)] at hpages
    rw [if_pos hzero]
    refine ⟨pageSize + (pageSize - size % pageSize), rfl, by omega, by omega, by omega⟩

theorem mapped_lt (hpage : 0 < pageSize) (hfits : size + 3 * pageSize ≤ 2 ^ 32) :
    mapped pageSize size < 2 ^ 32 := by
  have hmul : pagesFor pageSize size * pageSize ≤ size + pageSize - 1 := Nat.div_mul_le_self _ _
  have hsum : mapped pageSize size = pagesFor pageSize size * pageSize + 2 * pageSize :=
    Nat.add_mul _ _ _
  omega

/-- Of a size that fits, nothing is lost. -/
theorem mmapOffset_of_lt (hpage : 0 < pageSize) (hfits : mapped pageSize size < 2 ^ 32) :
    mmapOffset pageSize size + size + pageSize = mapped pageSize size := by
  have htwo : 2 * pageSize ≤ mapped pageSize size :=
    Nat.mul_le_mul_right _ (Nat.le_add_left _ _)
  obtain ⟨offset, hoffset, hlo, hhi, hsum⟩ := mmapOffset_eq hpage (by omega) size
  rw [hoffset, u32, Nat.mod_eq_of_lt (by omega)]
  exact hsum

/-- A size that does not fit fails a check. -/
theorem mapped_lt_of_checks {roundUp : Nat} (hpage : 0 < pageSize) (hmax : pageSize < 2 ^ 32)
    (hround : roundUp = u32 (mapped pageSize size)) (hdvd : pageSize ∣ roundUp)
    (hbuffer : mmapOffset pageSize size + size ≤ roundUp) :
    mapped pageSize size < 2 ^ 32 := by
  obtain ⟨offset, hoffset, hlo, hhi, hsum⟩ := mmapOffset_eq hpage hmax size
  have hmapped : pageSize ∣ mapped pageSize size := Nat.dvd_mul_left _ _
  rw [hoffset] at hbuffer
  unfold u32 at hround hbuffer
  have hsplit := Nat.div_add_mod offset (2 ^ 32)
  have hsplit' := Nat.div_add_mod (mapped pageSize size) (2 ^ 32)
  by_contra hlarge
  -- the offset has wrapped, so that the page size is more than half of what there is
  have hhalf : 2 ^ 31 < pageSize := by omega
  have hcarry : mapped pageSize size = roundUp + 2 ^ 32 := by omega
  have hpow : pageSize ∣ 2 ^ 32 := by
    rw [hcarry] at hmapped
    exact (Nat.dvd_add_right hdvd).mp hmapped
  obtain ⟨c, hc⟩ := hpow
  have hone : c = 1 := by
    by_contra hne
    rcases Nat.lt_or_ge c 2 with hlt | hge
    · have hzero : c = 0 := by omega
      rw [hzero, Nat.mul_zero] at hc
      omega
    · have := Nat.mul_le_mul_left pageSize hge
      omega
  rw [hone, Nat.mul_one] at hc
  omega

end

/-! ## The calls -/

section
variable {sys : Placement} {pageSize : Nat} {space space' : Space} {buf buf' : Secbuf}

theorem orDie_eq_ok {α : Type} {text : String} {x : Option α} {a : α} (h : orDie text x = .ok a) :
    x = some a := by
  cases x with
  | none => cases h
  | some b =>
      cases h
      rfl

theorem boundsCast_eq_ok {lo hi p n : Nat} (h : boundsCast lo hi p n = .ok ()) :
    lo ≤ p ∧ p + n ≤ hi := by
  unfold boundsCast at h
  split_ifs at h with hin
  exact hin

theorem boundsCast_ok {lo hi p n : Nat} (hlo : lo ≤ p) (hhi : p + n ≤ hi) :
    boundsCast lo hi p n = .ok () :=
  if_pos ⟨hlo, hhi⟩

/-- The pages of a mapping with `n` pages between the two that are inaccessible. -/
def guardPages (space : Space) (start n : Nat) : Space :=
  ((space.put start (n + 2) (some .readWrite)).put (start + n + 1) 1 (some .none)).put start 1
    (some .none)

/-- The buffer in a mapping that begins with page `start`. -/
def Secbuf.placed (buf : Secbuf) (pageSize start : Nat) : Secbuf :=
  { buf with
    pPtr := start * pageSize + mmapOffset pageSize buf.size
    noaccessPage := start * pageSize
    mapOffset := mmapOffset pageSize buf.size }

/-- Where the last page begins. -/
theorem noAccess_eq {roundUp : Nat} (hpage : 0 < pageSize) (hle : pageSize ≤ roundUp)
    (hlt : roundUp < 2 ^ 32) : u32 (roundUp + (2 ^ 32 - pageSize)) = roundUp - pageSize := by
  unfold u32
  omega

theorem mapGuarded_ok (hpage : 0 < pageSize) {n start : Nat}
    (hfits : (n + 2) * pageSize < 2 ^ 32) (hplace : sys.place space (n + 2) = some start) :
    mapGuarded sys pageSize ((n + 2) * pageSize) space =
      .ok (start * pageSize, guardPages space start n) := by
  have hle : pageSize ≤ (n + 2) * pageSize := Nat.le_mul_of_pos_left _ (by omega)
  have hlast : start * pageSize + ((n + 2) * pageSize - pageSize) = (start + n + 1) * pageSize := by
    rw [Nat.add_mul, Nat.add_mul, Nat.add_mul]
    omega
  have hmap : vsfSysutilMapAnonPages sys pageSize ((n + 2) * pageSize) space =
      .ok (start * pageSize, space.put start (n + 2) (some .readWrite)) := by
    unfold vsfSysutilMapAnonPages mmap
    rw [if_neg (by omega), pagesFor_mul hpage, hplace]
    rfl
  unfold mapGuarded
  rw [hmap, ok_bind]
  dsimp only
  rw [noAccess_eq hpage hle hfits, hlast, boundsCast_ok (Nat.le_refl _) (by omega), ok_bind,
    vsfSysutilMemprotect, mprotect_page hpage (by rw [put_inside (by omega) (by omega)]; rfl),
    orDie, ok_bind, boundsCast_ok (Nat.le_refl _) (by omega), ok_bind, vsfSysutilMemprotect,
    mprotect_page hpage ?_, orDie, ok_bind]
  · rfl
  · rw [put_outside (by omega), put_inside (by omega) (by omega)]
    rfl

/-- It returns only when the sizes are whole pages. -/
theorem mapGuarded_eq_ok {roundUp pMmap : Nat} (hpage : 0 < pageSize)
    (hlt : roundUp < 2 ^ 32) (h : mapGuarded sys pageSize roundUp space = .ok (pMmap, space')) :
    pageSize ∣ roundUp ∧ ∃ start, sys.place space (pagesFor pageSize roundUp) = some start := by
  obtain ⟨⟨addr, space1⟩, hmap, h⟩ := bind_eq_ok h
  obtain ⟨-, start, hplace, rfl, rfl⟩ := mmap_eq_some (orDie_eq_ok hmap)
  dsimp only at h
  obtain ⟨⟨⟩, -, h⟩ := bind_eq_ok h
  obtain ⟨space2, hlast, h⟩ := bind_eq_ok h
  obtain ⟨⟨⟩, hfirst, -⟩ := bind_eq_ok h
  have hle : pageSize ≤ roundUp := Nat.le_of_add_le_add_left (boundsCast_eq_ok hfirst).2
  have haligned := (mprotect_eq_some (orDie_eq_ok hlast)).1
  rw [noAccess_eq hpage hle hlt, Nat.mul_add_mod'] at haligned
  have hdvd : pageSize ∣ roundUp - pageSize + pageSize :=
    Nat.dvd_add (Nat.dvd_of_mod_eq_zero haligned) (Nat.dvd_refl _)
  rw [Nat.sub_add_cancel hle] at hdvd
  exact ⟨hdvd, start, hplace⟩

theorem vsfSecbufFree_eq_ok {result : Secbuf × Space}
    (h : vsfSecbufFree pageSize buf space = .ok result) : result.1 = buf := by
  unfold vsfSecbufFree at h
  split_ifs at h with hnull
  · cases h
    rfl
  · obtain ⟨⟨⟩, -, h⟩ := bind_eq_ok h
    obtain ⟨space1, -, h⟩ := bind_eq_ok h
    obtain ⟨⟨⟩, -, h⟩ := bind_eq_ok h
    obtain ⟨space2, -, h⟩ := bind_eq_ok h
    cases h
    rfl

section
variable {space1 : Space}

/-- A size that fits is allocated where the system finds room. -/
theorem vsfSecbufAlloc_ok (hpage : 0 < pageSize) (hfits : mapped pageSize buf.size < 2 ^ 32)
    (hfree : vsfSecbufFree pageSize buf space = .ok (buf, space1)) {start : Nat}
    (hplace : sys.place space1 (pagesFor pageSize buf.size + 2) = some start) :
    vsfSecbufAlloc sys pageSize buf space =
      .ok (buf.placed pageSize start, guardPages space1 start (pagesFor pageSize buf.size)) := by
  have hsum := mmapOffset_of_lt hpage hfits
  have hround : roundUpPageSize pageSize buf.size = mapped pageSize buf.size := by
    rw [roundUpPageSize_eq hpage]
    exact Nat.mod_eq_of_lt hfits
  unfold vsfSecbufAlloc
  rw [hfree, ok_bind]
  dsimp only
  rw [hround, mapped, mapGuarded_ok hpage hfits hplace, ok_bind]
  dsimp only
  unfold mapped at hsum
  rw [boundsCast_ok (Nat.le_add_right _ _) (by omega), ok_bind,
    boundsCast_ok (Nat.le_refl _) (by omega), ok_bind]
  rfl

/-- There is no other way to return. -/
theorem vsfSecbufAlloc_eq_ok (hpage : 0 < pageSize) (hmax : pageSize < 2 ^ 32)
    (h : vsfSecbufAlloc sys pageSize buf space = .ok (buf', space')) :
    mapped pageSize buf.size < 2 ^ 32 ∧ ∃ space1 start,
      vsfSecbufFree pageSize buf space = .ok (buf, space1) ∧
      sys.place space1 (pagesFor pageSize buf.size + 2) = some start ∧
      buf' = buf.placed pageSize start ∧
      space' = guardPages space1 start (pagesFor pageSize buf.size) := by
  obtain ⟨⟨buf1, space1⟩, hfree, hrest⟩ := bind_eq_ok h
  obtain rfl : buf1 = buf := vsfSecbufFree_eq_ok hfree
  dsimp only at hrest
  rw [roundUpPageSize_eq hpage] at hrest
  obtain ⟨⟨pMmap, space2⟩, hmap, hcasts⟩ := bind_eq_ok hrest
  obtain ⟨⟨⟩, hbuffer, -⟩ := bind_eq_ok hcasts
  have hlt : u32 (mapped pageSize buf1.size) < 2 ^ 32 := Nat.mod_lt _ (by decide)
  obtain ⟨hdvd, start, hplace⟩ := mapGuarded_eq_ok hpage hlt hmap
  have hfits := mapped_lt_of_checks hpage hmax rfl hdvd
    (by have := (boundsCast_eq_ok hbuffer).2; omega)
  have hpages : pagesFor pageSize (u32 (mapped pageSize buf1.size)) =
      pagesFor pageSize buf1.size + 2 := by
    rw [u32, Nat.mod_eq_of_lt hfits]
    exact pagesFor_mul hpage _
  rw [hpages] at hplace
  rw [vsfSecbufAlloc_ok hpage hfits hfree hplace] at h
  cases h
  exact ⟨hfits, space1, start, hfree, hplace, rfl, rfl⟩

end

/-! ## Where a buffer is -/

/-- A buffer in a mapping with `n` accessible pages behind page `start`: one page before
them and one behind them must not be touched, and the buffer ends where the latter begins. -/
structure Guarded (pageSize : Nat) (space space' : Space) (buf : Secbuf) (start n : Nat) :
    Prop where
  leading : space' start = some .none
  accessible : ∀ i, start < i → i ≤ start + n → space' i = some .readWrite
  trailing : space' (start + n + 1) = some .none
  elsewhere : ∀ i, i < start ∨ start + n + 1 < i → space' i = space i
  begins : (start + 1) * pageSize ≤ buf.pPtr
  ends : buf.pPtr + buf.size = (start + n + 1) * pageSize
  offset : buf.pPtr = start * pageSize + buf.mapOffset

theorem guarded_placed {space1 : Space} {start : Nat} (hpage : 0 < pageSize)
    (hfits : mapped pageSize buf.size < 2 ^ 32) :
    Guarded pageSize space1 (guardPages space1 start (pagesFor pageSize buf.size))
      (buf.placed pageSize start) start (pagesFor pageSize buf.size) := by
  have hsum := mmapOffset_of_lt hpage hfits
  have hsize : buf.size ≤ pagesFor pageSize buf.size * pageSize := by
    rw [pagesFor_eq hpage]
    have hsplit := Nat.div_add_mod buf.size pageSize
    have hrest := Nat.mod_lt buf.size hpage
    split_ifs
    · rw [Nat.add_mul, Nat.mul_comm (buf.size / pageSize)]
      omega
    · exact Nat.le_refl _
  have hends : start * pageSize + mmapOffset pageSize buf.size + buf.size =
      (start + pagesFor pageSize buf.size + 1) * pageSize := by
    unfold mapped at hsum
    rw [Nat.add_mul] at hsum
    rw [Nat.add_mul, Nat.add_mul]
    omega
  unfold guardPages
  refine ⟨put_inside (by omega) (by omega), fun i hlo hhi => ?_, ?_, fun i hi => ?_, ?_, hends, rfl⟩
  · rw [put_outside (by omega), put_outside (by omega), put_inside (by omega) (by omega)]
  · rw [put_outside (by omega), put_inside (by omega) (by omega)]
  · rw [put_outside (by omega), put_outside (by omega), put_outside (by omega)]
  · show (start + 1) * pageSize ≤ start * pageSize + mmapOffset pageSize buf.size
    rw [Nat.add_mul, Nat.add_mul] at hends
    rw [Nat.add_mul]
    omega

section
variable {start n a : Nat}

theorem Guarded.buffer (h : Guarded pageSize space space' buf start n) (hpage : 0 < pageSize)
    (hlo : buf.pPtr ≤ a) (hhi : a < buf.pPtr + buf.size) :
    space' (a / pageSize) = some .readWrite := by
  apply h.accessible
  · exact (Nat.le_div_iff_mul_le hpage).mpr (h.begins.trans hlo)
  · rw [h.ends] at hhi
    exact Nat.le_of_lt_succ ((Nat.div_lt_iff_lt_mul hpage).mpr hhi)

/-- The byte behind the buffer is the first of a page that must not be touched. -/
theorem Guarded.behind (h : Guarded pageSize space space' buf start n) (hpage : 0 < pageSize) :
    (buf.pPtr + buf.size) % pageSize = 0 ∧
      space' ((buf.pPtr + buf.size) / pageSize) = some .none := by
  rw [h.ends, Nat.mul_mod_left, Nat.mul_div_cancel _ hpage]
  exact ⟨rfl, h.trailing⟩

/-- The byte before the accessible pages is in a page that must not be touched. -/
theorem Guarded.before (h : Guarded pageSize space space' buf start n) (hpage : 0 < pageSize) :
    space' (((start + 1) * pageSize - 1) / pageSize) = some .none := by
  have hlast : (start + 1) * pageSize - 1 = pageSize - 1 + pageSize * start := by
    rw [Nat.add_mul, Nat.mul_comm start]
    omega
  rw [hlast, Nat.add_mul_div_left _ _ hpage, Nat.div_eq_of_lt (by omega), Nat.zero_add]
  exact h.leading

end

theorem vsfSecbufAlloc_guards {space1 : Space} {start : Nat} (hpage : 0 < pageSize)
    (hfits : buf.size + 3 * pageSize < 2 ^ 32)
    (hfree : vsfSecbufFree pageSize buf space = .ok (buf, space1))
    (hplace : sys.place space1 (pagesFor pageSize buf.size + 2) = some start) :
    ∃ buf' space' n, vsfSecbufAlloc sys pageSize buf space = .ok (buf', space') ∧
      buf'.size = buf.size ∧ Guarded pageSize space1 space' buf' start n ∧
      (∀ a, buf'.pPtr ≤ a → a < buf'.pPtr + buf'.size →
        space' (a / pageSize) = some .readWrite) ∧
      (buf'.pPtr + buf'.size) % pageSize = 0 ∧
      space' ((buf'.pPtr + buf'.size) / pageSize) = some .none ∧
      space' (((start + 1) * pageSize - 1) / pageSize) = some .none ∧
      buf'.pPtr - buf'.mapOffset = start * pageSize := by
  have hmapped := mapped_lt hpage (Nat.le_of_lt hfits)
  have hguarded : Guarded pageSize space1 _ _ start _ := guarded_placed hpage hmapped
  obtain ⟨hmod, hbehind⟩ := hguarded.behind hpage
  refine ⟨_, _, _, vsfSecbufAlloc_ok hpage hmapped hfree hplace, rfl, hguarded,
    fun a hlo hhi => hguarded.buffer hpage hlo hhi, hmod, hbehind, hguarded.before hpage, ?_⟩
  rw [hguarded.offset, Nat.add_sub_cancel]

/-- A system that only looks for room from page 1 on. -/
def lowPages : Placement where
  place space n := if ∀ j < n, space (1 + j) = none then some 1 else none
  pos space n i h := by
    split_ifs at h
    cases h
    exact Nat.one_pos
  free space n i h j hlo hhi := by
    split_ifs at h with hfree
    cases h
    obtain ⟨k, rfl⟩ := Nat.exists_eq_add_of_le hlo
    exact hfree k (by omega)

theorem vsfSecbufAlloc_guards_ten : ∃ buf' space' n,
    vsfSecbufAlloc lowPages 4096 { size := 10 } (fun _ => none) = .ok (buf', space') ∧
      buf'.size = 10 ∧ Guarded 4096 (fun _ => none) space' buf' 1 n ∧
      (∀ a, buf'.pPtr ≤ a → a < buf'.pPtr + buf'.size → space' (a / 4096) = some .readWrite) ∧
      (buf'.pPtr + buf'.size) % 4096 = 0 ∧
      space' ((buf'.pPtr + buf'.size) / 4096) = some .none ∧
      space' (((1 + 1) * 4096 - 1) / 4096) = some .none ∧
      buf'.pPtr - buf'.mapOffset = 1 * 4096 :=
  vsfSecbufAlloc_guards (by decide) (by decide) rfl (by decide)

end

end Vsftpd.SecBuf
