import Vsftpd.SecBuf

/-!
# Giving up a secure buffer

`vsf_secbuf_free` unmaps the bytes up to the end of the buffer, and so not the page behind
it; the pointer is left as it is.
-/

namespace Vsftpd.SecBuf

open Vsftpd.Lib Vsftpd.Lib.Pages

variable {sys : Placement} {pageSize : Nat} {space space' space1 : Space} {buf buf' : Secbuf}
  {start n : Nat}

/-! ## One buffer -/

/-- What a release is to do: the mapping is gone, and so is the pointer to it. -/
def Releases (pageSize : Nat) (space : Space) (buf : Secbuf) (space1 : Space) : Prop :=
  ∃ buf' space', vsfSecbufFree pageSize buf space1 = .ok (buf', space') ∧
    (∀ i, space' i = space i) ∧ buf'.pPtr = 0

theorem put_put_first {v w : Option Prot} (h : 0 < n) :
    (space.put start 1 v).put start n w = space.put start n w := by
  funext i
  by_cases hin : start ≤ i ∧ i < start + n
  · rw [put_inside hin.1 hin.2, put_inside hin.1 hin.2]
  · rw [put_outside (by omega), put_outside (by omega), put_outside (by omega)]

/-- All the pages of the mapping but the last are unmapped. -/
theorem vsfSecbufFree_placed (hpage : 0 < pageSize) (hfits : mapped pageSize buf.size < 2 ^ 32)
    (hstart : 0 < start) (hfirst : (space start).isSome = true) :
    vsfSecbufFree pageSize (buf.placed pageSize start) space =
      .ok (buf.placed pageSize start,
        space.put start (pagesFor pageSize buf.size + 1) none) := by
  have hsum := mmapOffset_of_lt hpage hfits
  unfold mapped at hsum hfits
  rw [Nat.add_mul] at hsum hfits
  have hlen : buf.size + mmapOffset pageSize buf.size =
      (pagesFor pageSize buf.size + 1) * pageSize := by
    rw [Nat.add_mul]
    omega
  have hpos : 0 < start * pageSize := Nat.mul_pos hstart hpage
  have hpage1 : pageSize ≤ (pagesFor pageSize buf.size + 1) * pageSize :=
    Nat.le_mul_of_pos_left _ (Nat.succ_pos _)
  have hlt : (pagesFor pageSize buf.size + 1) * pageSize < 2 ^ 32 := by
    rw [Nat.add_mul]
    omega
  unfold vsfSecbufFree Secbuf.placed
  dsimp only
  rw [if_neg (by omega), Nat.add_sub_cancel, boundsCast_ok (Nat.le_refl _) (by omega), ok_bind,
    vsfSysutilMemprotect, mprotect_page hpage hfirst, orDie, ok_bind, hlen, u32,
    Nat.mod_eq_of_lt hlt, boundsCast_ok (Nat.le_refl _) (by omega), ok_bind, vsfSysutilMemunmap,
    munmap, Nat.mul_mod_left, if_pos ⟨rfl, by omega⟩, Nat.mul_div_cancel _ hpage,
    pagesFor_mul hpage, put_put_first (Nat.succ_pos _)]
  rfl

/-- Without its first page a buffer can not be given up. -/
theorem vsfSecbufFree_unmapped (hpage : 0 < pageSize) (hfits : mapped pageSize buf.size < 2 ^ 32)
    (hstart : 0 < start) (hfirst : space start = none) :
    vsfSecbufFree pageSize (buf.placed pageSize start) space = .error (.die "mprotect") := by
  have hsum := mmapOffset_of_lt hpage hfits
  unfold mapped at hsum
  rw [Nat.add_mul] at hsum
  have hpos : 0 < start * pageSize := Nat.mul_pos hstart hpage
  have hone : ¬ (start * pageSize % pageSize = 0 ∧ ∀ j < pagesFor pageSize pageSize,
      (space (start * pageSize / pageSize + j)).isSome = true) := by
    intro h
    have hmapped := h.2 0 (by rw [pagesFor_self hpage]; exact Nat.one_pos)
    rw [Nat.mul_div_cancel _ hpage, Nat.add_zero, hfirst] at hmapped
    cases hmapped
  unfold vsfSecbufFree Secbuf.placed
  dsimp only
  rw [if_neg (by omega), Nat.add_sub_cancel, boundsCast_ok (Nat.le_refl _) (by omega), ok_bind,
    vsfSysutilMemprotect, mprotect, if_neg hone]
  rfl

theorem vsfSecbufFree_null (h : buf.pPtr = 0) (space : Space) :
    vsfSecbufFree pageSize buf space = .ok (buf, space) :=
  if_pos h

/-! ## One after the other -/

/-- The same buffer allocated `n` times. -/
def reallocs (sys : Placement) (pageSize : Nat) :
    Nat → Secbuf → Space → Except Fault (Secbuf × Space)
  | 0, buf, space => .ok (buf, space)
  | n + 1, buf, space => do
    let (buf, space) ← reallocs sys pageSize n buf space
    vsfSecbufAlloc sys pageSize buf space

/-- A page of the mapping that begins with page `start`. -/
def InMapping (pageSize size start i : Nat) : Prop :=
  start ≤ i ∧ i < start + pagesFor pageSize size + 2

/-- Besides what there was at first, nothing is mapped but the mapping of the buffer. -/
def OneMapping (pageSize : Nat) (space : Space) (buf : Secbuf) (space' : Space) : Prop :=
  ∀ i, space' i ≠ none →
    space i ≠ none ∨ InMapping pageSize buf.size (buf.noaccessPage / pageSize) i

/-- A buffer after some allocations, and the pages that were left behind. -/
structure Leaking (pageSize : Nat) (space : Space) (buf : Secbuf) (space' : Space) (start : Nat)
    (leaked : List Nat) : Prop where
  placed : buf = buf.placed pageSize start
  pos : 0 < start
  mapping : ∀ i, InMapping pageSize buf.size start i → space' i ≠ none ∧ space i = none
  trailing : space' (start + pagesFor pageSize buf.size + 1) = some .none
  old : ∀ i, space i ≠ none → space' i ≠ none
  nodup : leaked.Nodup
  leaked : ∀ i ∈ leaked, space' i = some .none ∧ space i = none ∧
    ¬ InMapping pageSize buf.size start i

/-- A mapping is made of pages that were free. -/
theorem guardPages_spec (hplace : sys.place space (n + 2) = some start) :
    (∀ i, start ≤ i → i < start + n + 2 → guardPages space start n i ≠ none ∧ space i = none) ∧
      guardPages space start n (start + n + 1) = some .none ∧
      ∀ i, space i ≠ none →
        guardPages space start n i = space i ∧ ¬ (start ≤ i ∧ i < start + n + 2) := by
  have hroom := sys.free _ _ _ hplace
  unfold guardPages
  refine ⟨fun i hlo hhi => ⟨?_, hroom i hlo hhi⟩, ?_, fun i hi => ?_⟩
  · by_cases hfirst : i = start
    · rw [put_inside (by omega) (by omega)]
      exact Option.some_ne_none _
    · rw [put_outside (by omega)]
      by_cases hlast : i = start + n + 1
      · rw [put_inside (by omega) (by omega)]
        exact Option.some_ne_none _
      · rw [put_outside (by omega), put_inside (by omega) (by omega)]
        exact Option.some_ne_none _
  · rw [put_outside (by omega), put_inside (by omega) (by omega)]
  · have hout : ¬ (start ≤ i ∧ i < start + n + 2) := fun h => hi (hroom i h.1 h.2)
    rw [put_outside (by omega), put_outside (by omega), put_outside (by omega)]
    exact ⟨rfl, hout⟩

/-- The first allocation. -/
theorem leaking_first (hpage : 0 < pageSize) (hmax : pageSize < 2 ^ 32) (hnull : buf.pPtr = 0)
    (h : vsfSecbufAlloc sys pageSize buf space = .ok (buf', space')) :
    buf'.size = buf.size ∧ ∃ start, Leaking pageSize space buf' space' start [] := by
  obtain ⟨-, space1, start, hfree, hplace, rfl, rfl⟩ := vsfSecbufAlloc_eq_ok hpage hmax h
  rw [vsfSecbufFree_null hnull] at hfree
  cases hfree
  obtain ⟨hmapping, htrailing, hold⟩ := guardPages_spec hplace
  refine ⟨rfl, start, rfl, sys.pos _ _ _ hplace, fun i hi => hmapping i hi.1 hi.2, htrailing,
    fun i hi => ?_, List.nodup_nil, fun i hi => absurd hi List.not_mem_nil⟩
  rw [(hold i hi).1]
  exact hi

/-- Each further one leaves a page. -/
theorem Leaking.alloc {leaked : List Nat} (hpage : 0 < pageSize) (hmax : pageSize < 2 ^ 32)
    (h : Leaking pageSize space buf space1 start leaked)
    (halloc : vsfSecbufAlloc sys pageSize buf space1 = .ok (buf', space')) :
    buf'.size = buf.size ∧ ∃ start', Leaking pageSize space buf' space' start'
      ((start + pagesFor pageSize buf.size + 1) :: leaked) := by
  obtain ⟨hfits, space2, start', hfree, hplace, rfl, rfl⟩ := vsfSecbufAlloc_eq_ok hpage hmax halloc
  have hfirst : (space1 start).isSome = true :=
    Option.isSome_iff_ne_none.mpr (h.mapping start ⟨Nat.le_refl _, by omega⟩).1
  have hfreed := vsfSecbufFree_placed hpage hfits h.pos hfirst
  rw [← h.placed, hfree] at hfreed
  obtain rfl : space2 = space1.put start (pagesFor pageSize buf.size + 1) none := by
    cases hfreed
    rfl
  obtain ⟨hmapping, htrailing, hold⟩ := guardPages_spec hplace
  -- outside the pages that were unmapped there is what there was before
  have hkept : ∀ i, space1 i ≠ none → (InMapping pageSize buf.size start i →
        i = start + pagesFor pageSize buf.size + 1) →
      guardPages (space1.put start (pagesFor pageSize buf.size + 1) none) start'
          (pagesFor pageSize buf.size) i = space1 i ∧
        ¬ InMapping pageSize buf.size start' i := by
    intro i hi hlast
    have hput : space1.put start (pagesFor pageSize buf.size + 1) none i = space1 i := by
      apply put_outside
      by_cases hin : InMapping pageSize buf.size start i
      · have := hlast hin
        omega
      · unfold InMapping at hin
        omega
    have hsame := hold i (by rw [hput]; exact hi)
    rw [hput] at hsame
    exact hsame
  have hnew : ∀ i, InMapping pageSize buf.size start' i → space i = none := by
    intro i hi
    by_contra hsome
    have hout : ¬ InMapping pageSize buf.size start i :=
      fun hin => hsome (h.mapping i hin).2
    exact (hkept i (h.old i hsome) fun hin => absurd hin hout).2 hi
  refine ⟨rfl, start', rfl, sys.pos _ _ _ hplace, fun i hi => ⟨(hmapping i hi.1 hi.2).1, hnew i hi⟩,
    htrailing, ?_, ?_, ?_⟩
  · intro i hi
    have hout : ¬ InMapping pageSize buf.size start i :=
      fun hin => hi (h.mapping i hin).2
    rw [(hkept i (h.old i hi) fun hin => absurd hin hout).1]
    exact h.old i hi
  · apply List.nodup_cons.mpr
    refine ⟨fun hmem => (h.leaked _ hmem).2.2 ⟨by omega, by omega⟩, h.nodup⟩
  · intro i hi
    rcases List.mem_cons.mp hi with rfl | hi
    · have hsome : space1 (start + pagesFor pageSize buf.size + 1) ≠ none := by
        rw [h.trailing]
        exact Option.some_ne_none _
      obtain ⟨hsame, hout⟩ := hkept _ hsome fun _ => rfl
      rw [hsame]
      exact ⟨h.trailing, (h.mapping _ ⟨by omega, by omega⟩).2, hout⟩
    · obtain ⟨hpage1, hpage2, hpage3⟩ := h.leaked i hi
      have hsome : space1 i ≠ none := by
        rw [hpage1]
        exact Option.some_ne_none _
      obtain ⟨hsame, hout⟩ := hkept i hsome fun hin => absurd hin hpage3
      rw [hsame]
      exact ⟨hpage1, hpage2, hout⟩

theorem reallocs_leaking (hpage : 0 < pageSize) (hmax : pageSize < 2 ^ 32) (hnull : buf.pPtr = 0)
    (h : reallocs sys pageSize (n + 1) buf space = .ok (buf', space')) :
    ∃ start leaked, Leaking pageSize space buf' space' start leaked ∧ leaked.length = n := by
  induction n generalizing buf' space' with
  | zero =>
      obtain ⟨-, start, hfirst⟩ := leaking_first hpage hmax hnull h
      exact ⟨start, [], hfirst, rfl⟩
  | succ n ih =>
      obtain ⟨⟨buf1, space1⟩, hrun, halloc⟩ := bind_eq_ok h
      obtain ⟨start, leaked, hleaking, hlen⟩ := ih hrun
      obtain ⟨-, start', hnext⟩ := hleaking.alloc hpage hmax halloc
      exact ⟨start', _, hnext, by rw [List.length_cons, hlen]⟩

theorem Leaking.not_oneMapping {i : Nat} {leaked : List Nat} (hpage : 0 < pageSize)
    (h : Leaking pageSize space buf space' start (i :: leaked)) :
    ¬ OneMapping pageSize space buf space' := by
  obtain ⟨hmapped, hfree, hout⟩ := h.leaked i List.mem_cons_self
  have hstart : buf.noaccessPage / pageSize = start := by
    rw [h.placed]
    exact Nat.mul_div_cancel _ hpage
  intro hone
  rcases hone i (by rw [hmapped]; exact Option.some_ne_none _) with hold | hin
  · exact hold hfree
  · rw [hstart] at hin
    exact hout hin

/-! ## What is left -/

/-- After a release page `last` is mapped as before, and nothing else. -/
structure LeavesPage (space : Space) (buf : Secbuf) (space' : Space) (last : Nat) : Prop where
  free : space last = none
  kept : space' last = some .none
  elsewhere : ∀ i, i ≠ last → space' i = space i
  pointer : buf.pPtr ≠ 0

theorem vsfSecbufFree_leavesPage (buf : Secbuf) (hpage : 0 < pageSize)
    (hfits : mapped pageSize buf.size < 2 ^ 32)
    (hplace : sys.place space (pagesFor pageSize buf.size + 2) = some start) :
    let space' := guardPages space start (pagesFor pageSize buf.size)
    let space2 := space'.put start (pagesFor pageSize buf.size + 1) none
    vsfSecbufFree pageSize (buf.placed pageSize start) space' =
        .ok (buf.placed pageSize start, space2) ∧
      LeavesPage space (buf.placed pageSize start) space2
        (start + pagesFor pageSize buf.size + 1) ∧
      vsfSecbufFree pageSize (buf.placed pageSize start) space2 = .error (.die "mprotect") := by
  have hpos := sys.pos _ _ _ hplace
  have hroom := sys.free _ _ _ hplace
  obtain ⟨hmapping, htrailing, -⟩ := guardPages_spec hplace
  have hguarded : Guarded pageSize space _ (buf.placed pageSize start) start _ :=
    guarded_placed hpage hfits
  have hfirst := Option.isSome_iff_ne_none.mpr (hmapping start (Nat.le_refl _) (by omega)).1
  refine ⟨vsfSecbufFree_placed hpage hfits hpos hfirst, ⟨hroom _ (by omega) (by omega), ?_, ?_, ?_⟩,
    vsfSecbufFree_unmapped hpage hfits hpos (put_inside (Nat.le_refl _) (by omega))⟩
  · rw [put_outside (by omega)]
    exact htrailing
  · intro i hi
    by_cases hin : start ≤ i ∧ i < start + (pagesFor pageSize buf.size + 1)
    · rw [put_inside hin.1 hin.2, hroom i hin.1 (by omega)]
    · rw [put_outside (by omega)]
      exact hguarded.elsewhere i (by omega)
  · have hmul := Nat.mul_pos hpos hpage
    show start * pageSize + mmapOffset pageSize buf.size ≠ 0
    omega

theorem LeavesPage.not_releases {last : Nat} {space2 : Space} (h : LeavesPage space buf space2 last)
    (hfree : vsfSecbufFree pageSize buf space1 = .ok (buf, space2)) :
    ¬ Releases pageSize space buf space1 := by
  rintro ⟨buf1, space3, hrun, hsame, -⟩
  rw [hfree] at hrun
  cases hrun
  have hlast := hsame last
  rw [h.kept, h.free] at hlast
  cases hlast

/-- Whatever the sizes, one page is left, the pointer too, a second release dies, and a
buffer that was allocated again is not the only mapping. -/
theorem vsfSecbufFree_never_releases (hpage : 0 < pageSize) (hmax : pageSize < 2 ^ 32)
    (hnull : buf.pPtr = 0)
    (halloc : vsfSecbufAlloc sys pageSize buf space = .ok (buf', space')) :
    ¬ Releases pageSize space buf' space' ∧
      (∃ space2 last, vsfSecbufFree pageSize buf' space' = .ok (buf', space2) ∧
        LeavesPage space buf' space2 last ∧
        vsfSecbufFree pageSize buf' space2 = .error (.die "mprotect")) ∧
      ∀ n buf2 space2, reallocs sys pageSize (n + 2) buf space = .ok (buf2, space2) →
        ¬ OneMapping pageSize space buf2 space2 := by
  obtain ⟨hfits, space1, start, hfree, hplace, rfl, rfl⟩ := vsfSecbufAlloc_eq_ok hpage hmax halloc
  rw [vsfSecbufFree_null hnull] at hfree
  cases hfree
  obtain ⟨hrun, hleaves, hsecond⟩ := vsfSecbufFree_leavesPage buf hpage hfits hplace
  refine ⟨hleaves.not_releases hrun, ⟨_, _, hrun, hleaves, hsecond⟩, ?_⟩
  intro n buf2 space2 hreallocs
  obtain ⟨start', leaked, hleaking, hlen⟩ := reallocs_leaking hpage hmax hnull hreallocs
  cases leaked with
  | nil => cases hlen
  | cons i leaked => exact hleaking.not_oneMapping hpage

theorem place_ten : lowPages.place (fun _ => none) (pagesFor 4096 10 + 2) = some 1 := by
  decide

theorem vsfSecbufFree_never_releases_ten : ∃ buf' space',
    vsfSecbufAlloc lowPages 4096 { size := 10 } (fun _ => none) = .ok (buf', space') ∧
      ¬ Releases 4096 (fun _ => none) buf' space' := by
  have hpage : 0 < 4096 := by omega
  have hfits : mapped 4096 ({ size := 10 } : Secbuf).size < 2 ^ 32 := by decide
  have halloc : vsfSecbufAlloc lowPages 4096 { size := 10 } (fun _ => none) = .ok (_, _) :=
    vsfSecbufAlloc_ok hpage hfits rfl place_ten
  exact ⟨_, _, halloc, (vsfSecbufFree_never_releases hpage (by decide) rfl halloc).1⟩

/-- The page behind a buffer of ten bytes stays mapped. -/
theorem page_behind_ten : ∃ buf' space' space2,
    vsfSecbufAlloc lowPages 4096 { size := 10 } (fun _ => none) = .ok (buf', space') ∧
      vsfSecbufFree 4096 buf' space' = .ok (buf', space2) ∧ space2 3 = some .none ∧
      buf'.pPtr = 12278 := by
  have hpage : 0 < 4096 := by omega
  have hfits : mapped 4096 ({ size := 10 } : Secbuf).size < 2 ^ 32 := by decide
  have halloc : vsfSecbufAlloc lowPages 4096 { size := 10 } (fun _ => none) = .ok (_, _) :=
    vsfSecbufAlloc_ok hpage hfits rfl place_ten
  obtain ⟨hrun, hleaves, -⟩ := vsfSecbufFree_leavesPage { size := 10 } hpage hfits place_ten
  exact ⟨_, _, _, halloc, hrun, hleaves.kept, rfl⟩

end Vsftpd.SecBuf
