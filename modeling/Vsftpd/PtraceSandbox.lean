import Mathlib.Data.Nat.Find
import Vsftpd.Str

/-!
# Reading the memory of a traced process

`ptrace_sandbox_get_buf` of `ptracesandbox.c`, which is built for i386: a `long` has four
bytes.  The process that is traced is stopped, so that its memory stays as it is.
-/

namespace Vsftpd.PtraceSandbox

def sizeofLong : Nat := 4

/-- An `unsigned long`. -/
def ulong (n : Nat) : Nat := n % 2 ^ 32

def esrch : Nat := 3

def ptraceSandboxErrDead : Int := -1
def ptraceSandboxErrPtrace : Int := -2

/-- The memory of the process, and which of the reads fail. -/
structure Tracee where
  memory : Nat → UInt8
  errno : Nat → Option Nat

/-- The bytes from an address on. -/
def Tracee.bytesAt (t : Tracee) (ptr n : Nat) : Bytes :=
  (List.range n).map fun i => t.memory (ulong (ptr + i))

/-- The variables of the loop, how many words were asked for, what was written at each
offset from `p_buf`, and the result. -/
@[ext] structure GetBuf where
  ptr : Nat
  len : Nat
  pOut : Nat := 0
  reads : Nat := 0
  buf : Nat → Option UInt8 := fun _ => none
  ret : Option Int := none

def memcpy (buf : Nat → Option UInt8) (off : Nat) (src : Bytes) : Nat → Option UInt8 :=
  fun i => if off ≤ i ∧ i < off + src.length then src[i - off]? else buf i

section
variable (t : Tracee)

/-- The test of the loop and what follows it. -/
def turn (s : GetBuf) : GetBuf :=
  if s.ret.isSome then s
  else if s.len = 0 then { s with ret := some 0 }
  else
    match t.errno s.reads with
    | some errno =>
      { s with
        reads := s.reads + 1
        ret := some (if errno = esrch then ptraceSandboxErrDead else ptraceSandboxErrPtrace) }
    | none =>
      let ptRet := t.bytesAt s.ptr sizeofLong
      { s with
        buf := memcpy s.buf s.pOut (if s.len ≥ sizeofLong then ptRet else ptRet.take s.len)
        pOut := s.pOut + sizeofLong
        ptr := ulong (s.ptr + sizeofLong)
        len := ulong (s.len + 2 ^ 32 - sizeofLong)
        reads := s.reads + 1 }

/-- The call after so many turns. -/
def ptraceSandboxGetBuf (ptr len : Nat) : Nat → GetBuf
  | 0 => { ptr := ptr, len := len }
  | n + 1 => turn t (ptraceSandboxGetBuf ptr len n)

/-- The call returns, nothing is written behind the buffer, and without a failure the
buffer holds the bytes at the address. -/
structure ReadsBuffer (ptr len : Nat) : Prop where
  returns : ∃ n, (ptraceSandboxGetBuf t ptr len n).ret ≠ none
  inside : ∀ n i, len ≤ i → (ptraceSandboxGetBuf t ptr len n).buf i = none
  filled : ∀ n ret, (ptraceSandboxGetBuf t ptr len n).ret = some ret →
    (∀ k < (ptraceSandboxGetBuf t ptr len n).reads, t.errno k = none) →
      ret = 0 ∧ ∀ i < len,
        (ptraceSandboxGetBuf t ptr len n).buf i = some (t.memory (ulong (ptr + i)))

end

/-! ## Turns without a failure -/

section
variable {t : Tracee} {ptr len n i : Nat} {s : GetBuf}

theorem turn_returned {ret : Int} (h : s.ret = some ret) : turn t s = s := by
  unfold turn
  rw [h]
  rfl

theorem turn_failed {errno : Nat} (hret : s.ret = none) (hlen : s.len ≠ 0)
    (h : t.errno s.reads = some errno) :
    turn t s =
      { s with
        reads := s.reads + 1
        ret := some (if errno = esrch then ptraceSandboxErrDead else ptraceSandboxErrPtrace) } := by
  unfold turn
  rw [hret, if_neg (by simp), if_neg hlen, h]

theorem turn_word (hret : s.ret = none) (hlen : s.len ≠ 0) (h : t.errno s.reads = none) :
    turn t s =
      { s with
        buf := memcpy s.buf s.pOut (t.bytesAt s.ptr (min sizeofLong s.len))
        pOut := s.pOut + sizeofLong
        ptr := ulong (s.ptr + sizeofLong)
        len := ulong (s.len + 2 ^ 32 - sizeofLong)
        reads := s.reads + 1 } := by
  have hword : (if s.len ≥ sizeofLong then t.bytesAt s.ptr sizeofLong
      else (t.bytesAt s.ptr sizeofLong).take s.len) = t.bytesAt s.ptr (min sizeofLong s.len) := by
    unfold Tracee.bytesAt
    split_ifs with hge
    · rw [Nat.min_eq_left hge]
    · rw [← List.map_take, List.take_range, Nat.min_comm]
  unfold turn
  rw [hret, if_neg (by simp), if_neg hlen, h]
  dsimp only
  rw [hword]

theorem ulong_add (a b : Nat) : ulong (ulong a + b) = ulong (a + b) := by
  unfold ulong
  omega

theorem ulong_of_lt (h : n < 2 ^ 32) : ulong n = n := by
  unfold ulong
  omega

/-- What was read with `n` words. -/
def afterWords (t : Tracee) (ptr len n : Nat) : GetBuf where
  ptr := ulong (ptr + 4 * n)
  len := ulong (len + 2 ^ 32 - 4 * n)
  pOut := 4 * n
  reads := n
  buf i := if i < min (4 * n) len then some (t.memory (ulong (ptr + i))) else none

theorem bytesAt_length (n : Nat) : (t.bytesAt ptr n).length = n := by
  unfold Tracee.bytesAt
  rw [List.length_map, List.length_range]

theorem bytesAt_getElem? {i : Nat} (h : i < n) :
    (t.bytesAt ptr n)[i]? = some (t.memory (ulong (ptr + i))) := by
  unfold Tracee.bytesAt
  rw [List.getElem?_map, List.getElem?_range h]
  rfl

theorem memcpy_first {buf : Nat → Option UInt8} {off : Nat} (hn : 0 < n) :
    memcpy buf off (t.bytesAt ptr n) off = some (t.memory (ulong ptr)) := by
  unfold memcpy
  rw [if_pos (by rw [bytesAt_length]; omega), Nat.sub_self, bytesAt_getElem? hn, Nat.add_zero]

/-- One word more, as long as there is something left. -/
theorem turn_afterWords (hlen : len < 2 ^ 32) (hn : 4 * n < len) (h : t.errno n = none) :
    turn t (afterWords t ptr len n) = afterWords t ptr len (n + 1) := by
  have hleft : (afterWords t ptr len n).len = len - 4 * n := by
    show (len + 2 ^ 32 - 4 * n) % 2 ^ 32 = len - 4 * n
    omega
  rw [turn_word rfl (by omega) h, hleft]
  apply GetBuf.ext
  · show ulong (ulong (ptr + 4 * n) + 4) = ulong (ptr + 4 * (n + 1))
    rw [ulong_add, Nat.add_assoc]
    rfl
  · show (len - 4 * n + 2 ^ 32 - 4) % 2 ^ 32 = (len + 2 ^ 32 - 4 * (n + 1)) % 2 ^ 32
    omega
  · rfl
  · rfl
  · funext i
    unfold afterWords memcpy
    dsimp only
    rw [bytesAt_length]
    unfold sizeofLong
    by_cases hnew : 4 * n ≤ i ∧ i < 4 * n + min 4 (len - 4 * n)
    · rw [if_pos hnew, if_pos (by omega), bytesAt_getElem? (by omega), ulong_add]
      congr 3
      omega
    · rw [if_neg hnew]
      by_cases hold : i < min (4 * n) len
      · rw [if_pos hold, if_pos (by omega)]
      · rw [if_neg hold, if_neg (by omega)]
  · rfl

theorem getBuf_words (hptr : ptr < 2 ^ 32) (hlen : len < 2 ^ 32) (hn : 4 * n < len + 4)
    (h : ∀ k < n, t.errno k = none) :
    ptraceSandboxGetBuf t ptr len n = afterWords t ptr len n := by
  induction n with
  | zero =>
      apply GetBuf.ext
      · exact (ulong_of_lt hptr).symm
      · show len = (len + 2 ^ 32 - 0) % 2 ^ 32
        omega
      · rfl
      · rfl
      · funext i
        show none = if i < min (4 * 0) len then some (t.memory (ulong (ptr + i))) else none
        rw [if_neg (by omega)]
      · rfl
  | succ n ih =>
      rw [ptraceSandboxGetBuf, ih (by omega) fun k hk => h k (Nat.lt_succ_of_lt hk)]
      exact turn_afterWords hlen (by omega) (h n (Nat.lt_succ_self n))

theorem getBuf_returned (h : (ptraceSandboxGetBuf t ptr len n).ret ≠ none) {m : Nat} (hm : n ≤ m) :
    ptraceSandboxGetBuf t ptr len m = ptraceSandboxGetBuf t ptr len n := by
  induction m, hm using Nat.le_induction with
  | base => rfl
  | succ m hm ih =>
      obtain ⟨ret, hret⟩ := Option.ne_none_iff_exists'.mp h
      rw [ptraceSandboxGetBuf, ih, turn_returned hret]

/-! ## Where the loop stops -/

/-- With `n` words the buffer is full, or the next read fails. -/
structure StopsAfter (t : Tracee) (len n : Nat) : Prop where
  within : 4 * n < len + 4
  words : ∀ k < n, t.errno k = none
  last : 4 * n = len ∨ 4 * n ≠ len ∧ ∃ errno, t.errno n = some errno

theorem afterWords_len_eq_zero (hlen : len < 2 ^ 32) (hn : 4 * n < len + 4) :
    (afterWords t ptr len n).len = 0 ↔ 4 * n = len := by
  show (len + 2 ^ 32 - 4 * n) % 2 ^ 32 = 0 ↔ _
  omega

/-- The buffer is as it was before the last turn. -/
theorem StopsAfter.last_turn (ptr : Nat) (hlen : len < 2 ^ 32) (h : StopsAfter t len n) :
    ∃ ret, (turn t (afterWords t ptr len n)).ret = some ret ∧
      (turn t (afterWords t ptr len n)).buf = (afterWords t ptr len n).buf ∧
      ((∀ k < (turn t (afterWords t ptr len n)).reads, t.errno k = none) →
        ret = 0 ∧ 4 * n = len) := by
  rcases h.last with hfull | ⟨hpart, errno, herrno⟩
  · have hzero : (afterWords t ptr len n).len = 0 :=
      (afterWords_len_eq_zero hlen h.within).mpr hfull
    have hturn : turn t (afterWords t ptr len n) =
        { afterWords t ptr len n with ret := some 0 } := by
      unfold turn
      rw [if_neg (by simp [afterWords]), if_pos hzero]
    rw [hturn]
    exact ⟨0, rfl, rfl, fun _ => ⟨rfl, hfull⟩⟩
  · have hleft : (afterWords t ptr len n).len ≠ 0 :=
      fun hzero => hpart ((afterWords_len_eq_zero hlen h.within).mp hzero)
    rw [turn_failed rfl hleft herrno]
    refine ⟨_, rfl, rfl, fun hall => ?_⟩
    have hnone := hall n (Nat.lt_succ_self n)
    rw [herrno] at hnone
    cases hnone

theorem StopsAfter.readsBuffer (hptr : ptr < 2 ^ 32) (hlen : len < 2 ^ 32)
    (h : StopsAfter t len n) : ReadsBuffer t ptr len := by
  obtain ⟨ret, hret, hbuf, hfull⟩ := h.last_turn ptr hlen
  have hbefore : ∀ m ≤ n, ptraceSandboxGetBuf t ptr len m = afterWords t ptr len m := by
    intro m hm
    have hwithin := h.within
    exact getBuf_words hptr hlen (by omega) fun k hk => h.words k (Nat.lt_of_lt_of_le hk hm)
  have hlast : ptraceSandboxGetBuf t ptr len (n + 1) = turn t (afterWords t ptr len n) := by
    rw [ptraceSandboxGetBuf, hbefore n (Nat.le_refl n)]
  have hsome : (ptraceSandboxGetBuf t ptr len (n + 1)).ret ≠ none := by
    rw [hlast, hret]
    exact Option.some_ne_none ret
  have hafter : ∀ m, n < m → ptraceSandboxGetBuf t ptr len m = turn t (afterWords t ptr len n) := by
    intro m hm
    rw [getBuf_returned hsome hm, hlast]
  have houtside : ∀ m i, len ≤ i → (afterWords t ptr len m).buf i = none :=
    fun m i hi => if_neg (by omega)
  refine ⟨⟨n + 1, hsome⟩, fun m i hi => ?_, fun m ret' hret' hall => ?_⟩
  · rcases Nat.lt_or_ge n m with hm | hm
    · rw [hafter m hm, hbuf, houtside n i hi]
    · rw [hbefore m hm, houtside m i hi]
  · rcases Nat.lt_or_ge n m with hm | hm
    · rw [hafter m hm] at hret' hall ⊢
      rw [hret] at hret'
      cases hret'
      obtain ⟨hzero, heq⟩ := hfull hall
      refine ⟨hzero, fun i hi => ?_⟩
      rw [hbuf]
      exact if_pos (by omega)
    · rw [hbefore m hm] at hret'
      cases hret'

/-- Some read fails before the buffer is overrun, or there is no part of a word. -/
theorem exists_stopsAfter (h : len % 4 = 0 ∨ ∃ k ≤ len / 4 + 1, t.errno k ≠ none) :
    ∃ n, StopsAfter t len n := by
  have hexists : ∃ k, (4 * k = len ∨ t.errno k ≠ none) ∧ 4 * k < len + 4 := by
    rcases h with hwhole | ⟨k, hk, hfails⟩
    · exact ⟨len / 4, .inl (by omega), by omega⟩
    · by_cases hpart : len % 4 = 0
      · exact ⟨len / 4, .inl (by omega), by omega⟩
      · exact ⟨k, .inr hfails, by omega⟩
  -- the least number of words after which there is no further turn
  obtain ⟨k, hstop, hk⟩ := hexists
  have hleast : ∃ k, 4 * k = len ∨ t.errno k ≠ none := ⟨k, hstop⟩
  have hle : Nat.find hleast ≤ k := Nat.find_min' hleast hstop
  refine ⟨Nat.find hleast, by omega, fun j hj => ?_, ?_⟩
  · by_contra hfails
    exact Nat.find_min hleast hj (.inr hfails)
  · by_cases hfull : 4 * Nat.find hleast = len
    · exact .inl hfull
    · have hfails := (Nat.find_spec hleast).resolve_left hfull
      exact .inr ⟨hfull, Option.ne_none_iff_exists'.mp hfails⟩

/-- So `ptrace_sandbox_get_long` always reads a `long`. -/
theorem readsBuffer_long (t : Tracee) (hptr : ptr < 2 ^ 32) : ReadsBuffer t ptr sizeofLong := by
  obtain ⟨n, hn⟩ : ∃ n, StopsAfter t sizeofLong n := exists_stopsAfter (.inl rfl)
  exact hn.readsBuffer hptr (by decide)

/-- With a part of a word the length never becomes 0. -/
theorem getBuf_runs_on (hpart : len % 4 ≠ 0) (h : ∀ k, t.errno k = none) (n : Nat) :
    (ptraceSandboxGetBuf t ptr len n).ret = none ∧
      (ptraceSandboxGetBuf t ptr len n).len % 4 = len % 4 := by
  induction n with
  | zero => exact ⟨rfl, rfl⟩
  | succ n ih =>
      obtain ⟨hret, hlen⟩ := ih
      rw [ptraceSandboxGetBuf, turn_word hret (by omega) (h _)]
      refine ⟨hret, ?_⟩
      show ((ptraceSandboxGetBuf t ptr len n).len + 2 ^ 32 - 4) % 2 ^ 32 % 4 = len % 4
      omega

/-- The call reads the buffer when the length is that of whole words, or a read fails in
time. -/
theorem ptraceSandboxGetBuf_reads_iff (hptr : ptr < 2 ^ 32) (hlen : len < 2 ^ 32) :
    ReadsBuffer t ptr len ↔ len % 4 = 0 ∨ ∃ k ≤ len / 4 + 1, t.errno k ≠ none := by
  constructor
  · intro h
    by_contra hnot
    obtain ⟨hpart, hgood⟩ := not_or.mp hnot
    have hall : ∀ k ≤ len / 4 + 1, t.errno k = none := by
      intro k hk
      by_contra hk'
      exact hgood ⟨k, hk, hk'⟩
    have hwords : ptraceSandboxGetBuf t ptr len (len / 4 + 1) = _ :=
      getBuf_words hptr hlen (by omega) fun k hk => hall k (by omega)
    have hword : (afterWords t ptr len (len / 4 + 1)).len = len + 2 ^ 32 - 4 * (len / 4 + 1) := by
      show (len + 2 ^ 32 - 4 * (len / 4 + 1)) % 2 ^ 32 = _
      omega
    have hover := h.inside (len / 4 + 2) (4 * (len / 4 + 1)) (by omega)
    rw [ptraceSandboxGetBuf, hwords, turn_word rfl (by omega) (hall _ (Nat.le_refl _)), hword,
      Nat.min_eq_left (by unfold sizeofLong; omega)] at hover
    -- the next word is written behind the buffer
    exact absurd (memcpy_first (by decide)) (ne_of_eq_of_ne hover nofun)
  · intro h
    obtain ⟨n, hn⟩ := exists_stopsAfter h
    exact hn.readsBuffer hptr hlen

end

/-- A process whose memory can be read everywhere. -/
def readable : Tracee := ⟨fun _ => 7, fun _ => none⟩

theorem ptraceSandboxGetBuf_reads_iff_word :
    ReadsBuffer readable 4096 4 ↔ 4 % 4 = 0 ∨ ∃ k ≤ 4 / 4 + 1, readable.errno k ≠ none :=
  ptraceSandboxGetBuf_reads_iff (by decide) (by decide)

/-- With a length of 2 the second word goes behind the buffer, and the call never returns. -/
theorem ptraceSandboxGetBuf_half :
    (ptraceSandboxGetBuf readable 4096 2 2).buf 4 = some 7 ∧
      (∀ n, (ptraceSandboxGetBuf readable 4096 2 n).ret = none) ∧
      ¬ ReadsBuffer readable 4096 2 := by
  have hruns : ∀ n, (ptraceSandboxGetBuf readable 4096 2 n).ret = none ∧ _ :=
    getBuf_runs_on (by decide) fun _ => rfl
  refine ⟨rfl, fun n => (hruns n).1, fun h => ?_⟩
  obtain ⟨n, hn⟩ := h.returns
  exact hn (hruns n).1

end Vsftpd.PtraceSandbox
