import Vsftpd.MyStr.Model

/-!
# The text that a string holds

One lemma for each function of `str.c`: from strings that hold texts it yields strings
that hold the texts it is to make, or it fails since a size is exhausted.
-/

namespace Vsftpd.MyStr

open Vsftpd.Lib Vsftpd.Lib.TextBlock

/-- No buffer, or a buffer that begins with the text and a zero and is longer by a byte
than the capacity, which is more than the length. -/
inductive Holds : Mystr → Bytes → Prop
  | null : Holds {} []
  | block {buf text : Bytes} {cap : Nat} (hterm : Terminated 0 buf text)
    (hcap : text.length < cap) (hbuf : buf.length = cap + 1) (hmax : cap < intMax) :
    Holds ⟨some buf, text.length, cap⟩ text

/-- The ends that a call may come to for want of memory, or because a text of `size`
bytes is too long. -/
inductive Exhausts (mem : Memory) (size : Nat) : Fault → Prop
  | overflow (h : intMax < size + 2) : Exhausts mem size (.bug "integer overflow")
  | malloc (h : intMax < size + 2) :
    Exhausts mem size (.bug "zero or big size in vsf_sysutil_malloc")
  | realloc (h : intMax < size + 2) :
    Exhausts mem size (.bug "zero or big size in vsf_sysutil_realloc")
  | strlen (h : intMax / 8 < size) : Exhausts mem size (.die "string suspiciously long")
  | noMalloc {n : Nat} (h : mem n = none) : Exhausts mem size (.die "malloc")
  | noRealloc {n : Nat} (h : mem n = none) : Exhausts mem size (.die "realloc")

theorem Exhausts.mono {mem : Memory} {m n : Nat} {f : Fault} (h : Exhausts mem m f)
    (hmn : m ≤ n) : Exhausts mem n f := by
  cases h with
  | overflow h => exact .overflow (by omega)
  | malloc h => exact .malloc (by omega)
  | realloc h => exact .realloc (by omega)
  | strlen h => exact .strlen (by omega)
  | noMalloc h => exact .noMalloc h
  | noRealloc h => exact .noRealloc h

/-- Those of a call that only allocates. -/
inductive Unallocated (mem : Memory) (size : Nat) : Fault → Prop
  | overflow (h : intMax < size + 2) : Unallocated mem size (.bug "integer overflow")
  | malloc (h : intMax < size + 2) :
    Unallocated mem size (.bug "zero or big size in vsf_sysutil_malloc")
  | noMalloc {n : Nat} (h : mem n = none) : Unallocated mem size (.die "malloc")

theorem Unallocated.exhausts {mem : Memory} {n : Nat} {f : Fault} (h : Unallocated mem n f) :
    Exhausts mem n f := by
  cases h with
  | overflow h => exact .overflow h
  | malloc h => exact .malloc h
  | noMalloc h => exact .noMalloc h

variable {mem : Memory} {p q tmp : Mystr} {text other src : Bytes} {F : Fault → Prop}

theorem Holds.len (h : Holds p text) : p.len = text.length := by
  cases h <;> rfl

theorem Holds.length_lt (h : Holds p text) : text.length < intMax := by
  cases h with
  | null => decide
  | block hterm hcap hbuf hmax => omega

/-- The text is determined by the string. -/
theorem Holds.eq_take (h : Holds p text) : text = (p.pBuf.getD []).take p.len := by
  cases h with
  | null => rfl
  | block hterm hcap hbuf hmax => exact hterm.take.symm

theorem Holds.length_add_two_le (h : Holds p text) : text.length + 2 ≤ intMax := by
  cases h with
  | null => decide
  | block hterm hcap hbuf hmax => omega

theorem Holds.eq_nil (h : Holds p text) (hnull : p.pBuf = none) : p = {} ∧ text = [] := by
  cases h with
  | null => exact ⟨rfl, rfl⟩
  | block => exact absurd hnull (by simp)

/-! ## Blocks -/

theorem freshBlock_yields {size : Nat} {failure : String} 
    (hfail : ∀ n, mem n = none → F (.die failure)) :
    Yields F (fun buf => buf.length = size) (freshBlock mem size failure) := by
  unfold freshBlock
  refine Yields.bind Yields.get fun n _ => Yields.bind Yields.set fun _ _ => ?_
  cases hmem : mem n with
  | none => exact Yields.throw (hfail n hmem)
  | some junk =>
      apply Yields.pure
      rw [List.length_map, List.length_range]

/-- A new buffer, of which only the last byte is known. -/
theorem newBuffer_yields {n : Nat} (hn : n + 1 < 4294967296) :
    Yields (Unallocated mem n)
      (fun q => ∃ buf, q = ⟨some buf, 0, n + 1⟩ ∧ buf.length = n + 2 ∧ n + 1 < intMax)
      (newBuffer mem p (n + 1)) := by
  unfold newBuffer vsfSysutilMalloc
  refine Yields.bind (Q := fun buf => buf.length = n + 2 ∧ n + 1 < intMax) ?_ ?_
  · apply Yields.ite
    · intro hbig
      apply Yields.throw
      apply Unallocated.malloc
      unfold u32 intMax at *
      omega
    · intro hfits
      have hsize : u32 (n + 1 + 1) = n + 2 := by
        unfold u32 intMax at *
        omega
      rw [hsize] at hfits ⊢
      refine (freshBlock_yields fun _ => Unallocated.noMalloc).post fun buf hbuf => ⟨hbuf, ?_⟩
      omega
  · rintro buf ⟨hbuf, hmax⟩
    apply Yields.pure
    exact ⟨buf.set (n + 1) 0, rfl, by rw [List.length_set, hbuf], hmax⟩

/-- A longer buffer that begins with the old one. -/
theorem longerBuffer_yields {n : Nat} (hn : n + 1 < 4294967296)
    (hold : ∀ old, p.pBuf = some old → old.length ≤ n + 1) :
    Yields (Exhausts mem n)
      (fun q => ∃ buf, q = ⟨some buf, p.len, n + 1⟩ ∧ buf.length = n + 2 ∧ n + 1 < intMax ∧
        ∀ old, p.pBuf = some old → buf.take old.length = old)
      (longerBuffer mem p (n + 1)) := by
  unfold longerBuffer vsfSysutilRealloc
  refine Yields.bind (Q := fun buf => buf.length = n + 2 ∧ n + 1 < intMax ∧
    ∀ old, p.pBuf = some old → buf.take old.length = old) ?_ ?_
  · apply Yields.ite
    · intro hbig
      apply Yields.throw
      apply Exhausts.realloc
      unfold u32 intMax at *
      omega
    · intro hfits
      have hsize : u32 (n + 1 + 1) = n + 2 := by
        unfold u32 intMax at *
        omega
      rw [hsize] at hfits ⊢
      refine Yields.bind (freshBlock_yields fun _ => Exhausts.noRealloc) fun fresh hfresh => ?_
      apply Yields.pure
      refine ⟨?_, by omega, fun old hbuf => ?_⟩
      · simp only [List.length_append, List.length_take, List.length_drop]
        omega
      · have hle := hold old hbuf
        rw [hbuf, Option.getD_some, List.take_of_length_le (by omega : old.length ≤ n + 2),
          List.take_left]
  · rintro buf ⟨hbuf, hmax, hkept⟩
    apply Yields.pure
    refine ⟨buf.set (n + 1) 0, rfl, by rw [List.length_set, hbuf], hmax, fun old hold' => ?_⟩
    rw [List.take_set_of_le (hold old hold')]
    exact hkept old hold'

/-! ## Writing to a buffer -/

section
variable {buf : Bytes} {cap len : Nat}

theorem memcpy_yields {i : Nat} (hroom : i + src.length ≤ cap) (hmax : cap < intMax) :
    Yields F (· = ⟨some (overwrite buf i src), len, cap⟩)
      (Mystr.memcpy ⟨some buf, len, cap⟩ i src) := by
  unfold Mystr.memcpy
  dsimp only
  rw [if_pos hroom, if_neg (by omega)]
  exact Yields.pure rfl

theorem store_yields {i : Nat} {c : UInt8} (h : i < cap) :
    Yields F (· = ⟨some (buf.set i c), len, cap⟩) (Mystr.store ⟨some buf, len, cap⟩ i c) := by
  unfold Mystr.store
  dsimp only
  rw [if_pos (.inl h)]
  exact Yields.pure rfl

end

/-! ## Room for a text -/

/-- Room for a text of `n` bytes; nothing is known of what is there. -/
theorem freshRoom_yields (h : Holds p text) {n : Nat} (hn : n + 1 < 4294967296) :
    Yields (Unallocated mem n)
      (fun q => ∃ (buf : Bytes) (len cap : Nat), q = ⟨some buf, len, cap⟩ ∧ n < cap ∧
        buf.length = cap + 1 ∧ cap < intMax)
      (freshRoom mem p (n + 1)) := by
  unfold freshRoom
  apply Yields.ite
  · intro _
    refine (newBuffer_yields hn).post ?_
    rintro q ⟨buf, rfl, hbuf, hmax⟩
    exact ⟨buf, 0, n + 1, rfl, Nat.lt_succ_self n, hbuf, hmax⟩
  · intro henough
    apply Yields.pure
    cases h with
    | null => exact absurd (Nat.succ_pos _) henough
    | block hterm hcap hbuf hmax =>
        dsimp only at henough
        exact ⟨_, _, _, rfl, by omega, hbuf, hmax⟩

/-- Room for a text of `n` bytes behind the text that is there; a string with a buffer
still holds its text. -/
theorem moreRoom_yields (h : Holds p text) {n : Nat} (hn : n + 1 < 4294967296) :
    Yields (Exhausts mem n)
      (fun q => ∃ (buf : Bytes) (cap : Nat), q = ⟨some buf, text.length, cap⟩ ∧ n < cap ∧
        buf.length = cap + 1 ∧ cap < intMax ∧ buf.take text.length = text ∧
        (p.pBuf ≠ none → Terminated 0 buf text ∧ text.length < cap))
      (moreRoom mem p (n + 1)) := by
  unfold moreRoom
  apply Yields.ite
  · intro hgrow
    have hold : ∀ old, p.pBuf = some old → old.length ≤ n + 1 := by
      intro old hbuf
      cases h with
      | null => exact absurd hbuf (by simp)
      | block hterm hcap hlen hmax =>
          cases hbuf
          dsimp only at hgrow
          omega
    refine (longerBuffer_yields hn hold).post ?_
    rintro q ⟨buf, rfl, hbuf, hmax, hkept⟩
    refine ⟨buf, n + 1, by rw [h.len], Nat.lt_succ_self n, hbuf, hmax, ?_⟩
    cases h with
    | null => exact ⟨rfl, fun hnone => absurd rfl hnone⟩
    | block hterm hcap hlen hmax' =>
        have hterm' := hterm.of_prefix (hkept _ rfl)
        dsimp only at hgrow
        exact ⟨hterm'.take, fun _ => ⟨hterm', by omega⟩⟩
  · intro henough
    apply Yields.pure
    cases h with
    | null => exact absurd (Nat.succ_pos _) henough
    | block hterm hcap hbuf hmax =>
        dsimp only at henough
        exact ⟨_, _, rfl, by omega, hbuf, hmax, hterm.take, fun _ => ⟨hterm, hcap⟩⟩

/-! ## Storing and appending -/

/-- Afterwards there is a buffer, also for the empty text. -/
theorem privateStrAllocMemchunk_filled (h : Holds p text) :
    Yields (Unallocated mem src.length) (fun q => Holds q src ∧ q.pBuf ≠ none)
      (privateStrAllocMemchunk mem p src) := by
  unfold privateStrAllocMemchunk
  apply Yields.ite
  · intro hbig
    apply Yields.throw
    apply Unallocated.overflow
    unfold u32 intMax at *
    omega
  · intro hfits
    have hlt : src.length + 1 < 4294967296 := by
      unfold u32 at hfits
      omega
    have hneeded : u32 (src.length + 1) = src.length + 1 := Nat.mod_eq_of_lt hlt
    dsimp only
    rw [hneeded]
    refine Yields.bind (freshRoom_yields h hlt) ?_
    rintro q ⟨buf, len, cap, rfl, hcap, hbuf, hmax⟩
    refine Yields.bind (memcpy_yields (by omega) hmax) ?_
    rintro q rfl
    refine Yields.bind (store_yields hcap) ?_
    rintro q rfl
    apply Yields.pure
    refine ⟨?_, by simp⟩
    apply Holds.block
    · exact terminated_overwrite (by omega)
    · exact hcap
    · rw [List.length_set, length_overwrite (by omega), hbuf]
    · exact hmax

theorem privateStrAllocMemchunk_yields (h : Holds p text) :
    Yields (Exhausts mem src.length) (Holds · src) (privateStrAllocMemchunk mem p src) :=
  (privateStrAllocMemchunk_filled h).mono (fun _ hf => hf.exhausts) fun _ hq => hq.1

theorem privateStrAppendMemchunk_yields (h : Holds p text) :
    Yields (Exhausts mem (text.length + src.length)) (Holds · (text ++ src))
      (privateStrAppendMemchunk mem p src) := by
  have hlt := h.length_lt
  unfold privateStrAppendMemchunk
  dsimp only
  rw [h.len]
  apply Yields.ite
  · intro hbig
    apply Yields.throw
    apply Exhausts.overflow
    unfold u32 intMax at *
    omega
  · intro hfits
    have htotal : u32 (src.length + text.length) = text.length + src.length := by
      unfold u32 intMax at *
      omega
    rw [htotal]
    apply Yields.ite
    · intro hbig
      apply Yields.throw
      apply Exhausts.overflow
      unfold u32 intMax at *
      omega
    · intro hfits'
      have hsmall : text.length + src.length + 1 < 4294967296 := by
        unfold u32 intMax at *
        omega
      refine Yields.bind (moreRoom_yields h hsmall) ?_
      rintro q ⟨buf, cap, rfl, hcap, hbuf, hmax, htake, -⟩
      refine Yields.bind (memcpy_yields (by dsimp only; omega) hmax) ?_
      rintro q rfl
      refine Yields.bind (store_yields hcap) ?_
      rintro q rfl
      apply Yields.pure
      dsimp only
      have hsum : u32 (text.length + src.length) = (text ++ src).length := by
        rw [List.length_append]
        unfold u32 intMax at *
        omega
      rw [hsum]
      apply Holds.block
      · exact terminated_append htake (by omega)
      · rw [List.length_append]
        exact hcap
      · rw [List.length_set, length_overwrite (by omega), hbuf]
      · exact hmax

/-! ## Reading -/

theorem slice_yields (h : Holds p text) {i n : Nat} (hn : i + n ≤ text.length) :
    Yields F (· = (text.drop i).take n) (p.slice i n) := by
  unfold Mystr.slice
  cases h with
  | null =>
      have hzero : n = 0 := by
        rw [List.length_nil] at hn
        omega
      subst hzero
      exact Yields.pure (List.take_zero).symm
  | block hterm hcap hbuf hmax =>
      dsimp only
      rw [if_pos (by omega), hterm.slice hn]
      exact Yields.pure rfl

theorem load_yields (h : Holds p text) {i : Nat} (hi : i < text.length) :
    Yields F (fun c => text[i]? = some c) (p.load i) := by
  unfold Mystr.load
  cases h with
  | null => exact absurd hi (Nat.not_lt_zero i)
  | block hterm hcap hbuf hmax =>
      dsimp only
      rw [if_pos (by omega)]
      apply Yields.pure
      rw [List.getD_eq_getElem?_getD, hterm.getElem? hi, List.getElem?_eq_getElem hi,
        Option.getD_some]

/-! ## Functions on one string -/

theorem vsfSysutilStrlen_yields {s : Bytes} :
    Yields (Exhausts mem (cString s).length) (· = cString s) (vsfSysutilStrlen s) := by
  unfold vsfSysutilStrlen
  apply Yields.ite
  · intro hlong
    exact Yields.throw (Exhausts.strlen hlong)
  · intro _
    exact Yields.pure rfl

theorem strAllocText_yields (h : Holds p text) {s : Bytes} :
    Yields (Exhausts mem (cString s).length) (Holds · (cString s)) (strAllocText mem p s) := by
  unfold strAllocText
  refine Yields.bind vsfSysutilStrlen_yields ?_
  rintro _ rfl
  exact privateStrAllocMemchunk_yields h

theorem strAppendText_yields (h : Holds p text) {s : Bytes} :
    Yields (Exhausts mem (text.length + (cString s).length)) (Holds · (text ++ cString s))
      (strAppendText mem p s) := by
  unfold strAppendText
  refine Yields.bind (vsfSysutilStrlen_yields.mono (fun f hf => hf.mono ?_) fun _ hs => hs) ?_
  · omega
  · rintro _ rfl
    exact privateStrAppendMemchunk_yields h

theorem strAppendChar_yields (h : Holds p text) {c : UInt8} :
    Yields (Exhausts mem (text.length + 1)) (Holds · (text ++ [c])) (strAppendChar mem p c) :=
  privateStrAppendMemchunk_yields h

theorem Holds.pBuf_ne_none (h : Holds p text) (hne : text ≠ []) : p.pBuf ≠ none := by
  intro hnull
  exact hne (h.eq_nil hnull).2

theorem strGetbuf_yields (h : Holds p text) :
    Yields (Exhausts mem 0) (fun q => Holds q text ∧ q.pBuf ≠ none) (strGetbuf mem p) := by
  unfold strGetbuf
  cases h with
  | null =>
      dsimp only
      rw [if_neg (by simp)]
      exact (privateStrAllocMemchunk_filled Holds.null).mono (fun _ hf => hf.exhausts)
        fun _ hq => hq
  | block hterm hcap hbuf hmax =>
      dsimp only
      rw [if_pos (by omega)]
      exact Yields.pure ⟨.block hterm hcap hbuf hmax, by simp⟩

theorem strTrunc_yields (h : Holds p text) (hbuf : p.pBuf ≠ none) {n : Nat}
    (hn : n ≤ text.length) : Yields F (Holds · (text.take n)) (strTrunc p n) := by
  unfold strTrunc
  cases h with
  | null => exact absurd rfl hbuf
  | @block buf _ cap hterm hcap hlen hmax =>
      dsimp only
      rw [if_neg (by omega)]
      refine (store_yields (by omega)).post ?_
      rintro q rfl
      have htake : (text.take n).length = n := by
        rw [List.length_take]
        omega
      have hholds : Holds ⟨some (buf.set n 0), (text.take n).length, cap⟩ (text.take n) := by
        apply Holds.block
        · exact hterm.cut hn
        · omega
        · rw [List.length_set, hlen]
        · exact hmax
      rwa [htake] at hholds

theorem strEmpty_yields (h : Holds p text) :
    Yields (Exhausts mem 0) (Holds · []) (strEmpty mem p) := by
  unfold strEmpty
  refine Yields.bind (strGetbuf_yields h) ?_
  rintro q ⟨hq, hbuf⟩
  have hcut : Yields (Exhausts mem 0) (Holds · (text.take 0)) (strTrunc q 0) :=
    strTrunc_yields hq hbuf (Nat.zero_le _)
  rwa [List.take_zero] at hcut

/-- The ends for want of memory only. -/
def NoMemory (mem : Memory) (_ : Fault) : Prop := ∃ n, mem n = none

theorem Exhausts.noMemory {f : Fault} (h : Exhausts mem 0 f) : NoMemory mem f := by
  cases h with
  | overflow h => exact absurd h (by decide)
  | malloc h => exact absurd h (by decide)
  | realloc h => exact absurd h (by decide)
  | strlen h => exact absurd h (by decide)
  | noMalloc h => exact ⟨_, h⟩
  | noRealloc h => exact ⟨_, h⟩

theorem gotbuf_yields (h : Holds p text) :
    Yields (NoMemory mem) (Holds · text) (strGetbuf mem p) :=
  (strGetbuf_yields h).mono (fun _ hf => hf.noMemory) fun _ hq => hq.1

theorem emptied_yields (h : Holds p text) :
    Yields (NoMemory mem) (Holds · []) (strEmpty mem p) :=
  (strEmpty_yields h).mono (fun _ hf => hf.noMemory) fun _ hq => hq

theorem copied_yields (h : Holds p text) (hsrc : src.length + 2 ≤ intMax) :
    Yields (NoMemory mem) (Holds · src) (privateStrAllocMemchunk mem p src) := by
  refine (privateStrAllocMemchunk_filled h).mono (fun f hf => ?_) fun _ hq => hq.1
  cases hf with
  | overflow h => omega
  | malloc h => omega
  | noMalloc h => exact ⟨_, h⟩

/-- Memory that does not run out. -/
def zeroed : Memory := fun _ => some fun _ => 0

theorem zeroed_ne_none (n : Nat) : zeroed n ≠ none := Option.some_ne_none _

/-- Reserving writes a zero at `n`, wherever the text ends. -/
theorem strReserve_yields (h : Holds p text) {n : Nat} (hn : n < 4294967296)
    (hinside : n < text.length → text[n]? = some 0) (hnull : p.pBuf = none → n = 0) :
    Yields (Exhausts mem n) (Holds · text) (strReserve mem p n) := by
  unfold strReserve
  apply Yields.ite
  · intro hzero
    apply Yields.throw
    apply Exhausts.overflow
    unfold u32 intMax at *
    omega
  · intro hfits
    have hsmall : n + 1 < 4294967296 := by
      unfold u32 at hfits
      omega
    have hlen : u32 (n + 1) = n + 1 := Nat.mod_eq_of_lt hsmall
    rw [hlen, Nat.add_sub_cancel]
    refine Yields.bind (moreRoom_yields h hsmall) ?_
    rintro q ⟨buf, cap, rfl, hcap, hbuf, hmax, -, hkept⟩
    refine (store_yields hcap).post ?_
    rintro q rfl
    have hset (hterm : Terminated 0 (buf.set n 0) text) (hlt : text.length < cap) :
        Holds ⟨some (buf.set n 0), text.length, cap⟩ text :=
      .block hterm hlt (by rw [List.length_set, hbuf]) hmax
    by_cases hnone : p.pBuf = none
    · obtain ⟨-, rfl⟩ := h.eq_nil hnone
      obtain rfl : n = 0 := hnull hnone
      have hbuf0 : 0 < buf.length := by omega
      apply hset _ hcap
      rw [List.set_eq_take_append_cons_drop, if_pos hbuf0]
      exact ⟨_, rfl⟩
    · obtain ⟨hterm, hlt⟩ := hkept hnone
      apply hset _ hlt
      rcases Nat.lt_trichotomy n text.length with hlt' | rfl | hgt
      · have hzero : text[n] = 0 := by
          have hget := hinside hlt'
          rw [List.getElem?_eq_getElem hlt'] at hget
          exact Option.some.inj hget
        have hset' := hterm.set hlt' text[n]
        rwa [List.set_getElem_self, hzero] at hset'
      · exact hterm.set_stop
      · exact hterm.set_behind hgt 0

/-- A character of the text replaced. -/
theorem store_holds (h : Holds p text) {i : Nat} {c : UInt8} (hi : i < text.length) :
    Yields F (Holds · (text.set i c)) (p.store i c) := by
  cases h with
  | null => exact absurd hi (Nat.not_lt_zero i)
  | @block buf _ cap hterm hcap hbuf hmax =>
      refine (store_yields (Nat.lt_trans hi hcap)).post ?_
      rintro q rfl
      have hholds : Holds ⟨some (buf.set i c), (text.set i c).length, cap⟩ (text.set i c) := by
        apply Holds.block
        · exact hterm.set hi c
        · rw [List.length_set]
          exact hcap
        · rw [List.length_set, hbuf]
        · exact hmax
      rwa [List.length_set] at hholds

theorem replaceEach_yields (f : UInt8 → UInt8) {n : Nat} (h : Holds p text)
    (hn : n ≤ text.length) :
    Yields F (Holds · (text.take (text.length - n) ++ (text.drop (text.length - n)).map f))
      (replaceEach f p n) := by
  induction n generalizing p text with
  | zero =>
      apply Yields.pure
      rw [Nat.sub_zero, List.take_length, List.drop_length, List.map_nil, List.append_nil]
      exact h
  | succ n ih =>
      have hi : text.length - (n + 1) < text.length := by omega
      have hnext : text.length - n = text.length - (n + 1) + 1 := by omega
      rw [replaceEach, h.len]
      generalize text.length - (n + 1) = i at hi hnext
      refine Yields.bind (load_yields h hi) fun c hc => ?_
      refine Yields.bind (store_holds h hi) fun q hq => ?_
      have hrest := ih hq (by rw [List.length_set]; omega)
      rw [List.length_set, hnext] at hrest
      refine hrest.post fun r hr => ?_
      have hget : text[i] = c := by
        rw [List.getElem?_eq_getElem hi] at hc
        exact Option.some.inj hc
      have hdrop : (text.set i (f c)).drop (i + 1) = text.drop (i + 1) :=
        List.drop_set_of_lt (Nat.lt_succ_self i)
      have htake : (text.set i (f c)).take (i + 1) = text.take i ++ [f c] := by
        rw [List.take_succ_eq_append_getElem (by rw [List.length_set]; exact hi),
          List.getElem_set_self, List.take_set_of_le (Nat.le_refl i)]
      rw [hdrop, htake, List.append_assoc] at hr
      rw [List.drop_eq_getElem_cons hi, hget, List.map_cons]
      exact hr

theorem strUpper_yields (h : Holds p text) :
    Yields F (Holds · (Vsftpd.strUpper text)) (strUpper p) := by
  have hall : Yields F (Holds · (text.take (text.length - text.length) ++
      (text.drop (text.length - text.length)).map vsfSysutilToupper))
      (replaceEach vsfSysutilToupper p text.length) :=
    replaceEach_yields _ h (Nat.le_refl _)
  rw [Nat.sub_self, List.take_zero, List.nil_append, List.drop_zero] at hall
  unfold strUpper
  rwa [h.len]

theorem strReplaceChar_yields (h : Holds p text) {old new : UInt8} :
    Yields F (Holds · (Vsftpd.strReplaceChar text old new)) (strReplaceChar p old new) := by
  have hall : Yields F (Holds · (text.take (text.length - text.length) ++
      (text.drop (text.length - text.length)).map fun c => if c = old then new else c))
      (replaceEach (fun c => if c = old then new else c) p text.length) :=
    replaceEach_yields _ h (Nat.le_refl _)
  rw [Nat.sub_self, List.take_zero, List.nil_append, List.drop_zero] at hall
  unfold strReplaceChar
  rwa [h.len]

theorem appendSpaces_yields (h : Holds p text) (n : Nat) :
    Yields (Exhausts mem (text.length + n)) (Holds · (text ++ List.replicate n 32))
      (appendSpaces mem p n) := by
  induction n generalizing p text with
  | zero =>
      apply Yields.pure
      rw [List.replicate_zero, List.append_nil]
      exact h
  | succ n ih =>
      refine Yields.bind ((strAppendChar_yields h).mono (fun f hf => hf.mono (by omega))
        fun _ hq => hq) fun q hq => ?_
      have hlen : (text ++ [32]).length + n = text.length + (n + 1) := by
        rw [List.length_append, List.length_singleton]
        omega
      have hrest := ih hq
      rw [hlen, List.append_assoc, List.singleton_append, ← List.replicate_succ] at hrest
      exact hrest

theorem strRpad_yields (h : Holds p text) (w : Nat) :
    Yields (Exhausts mem (max text.length w)) (Holds · (text.rightpad w 32)) (strRpad mem p w) := by
  unfold strRpad List.rightpad
  rw [h.len]
  apply Yields.ite
  · intro hwide
    have hzero : w - text.length = 0 := Nat.sub_eq_zero_of_le hwide
    apply Yields.pure
    rw [hzero, List.replicate_zero, List.append_nil]
    exact h
  · intro hnarrow
    exact (appendSpaces_yields h _).mono (fun f hf => hf.mono (by omega)) fun _ hq => hq

/-! ## Functions on two strings -/

theorem wholeSlice_yields (h : Holds q other) :
    Yields F (· = other) (q.slice 0 q.len) := by
  have hslice : Yields F (· = (other.drop 0).take other.length) (q.slice 0 other.length) :=
    slice_yields h (by omega)
  rw [List.drop_zero, List.take_length] at hslice
  rwa [h.len]

theorem strCopy_yields (h : Holds p text) (hq : Holds q other) :
    Yields (Exhausts mem other.length) (Holds · other) (strCopy mem p q) := by
  unfold strCopy
  refine Yields.bind (wholeSlice_yields hq) ?_
  rintro _ rfl
  exact privateStrAllocMemchunk_yields h

theorem strAppendStr_yields (h : Holds p text) (hq : Holds q other) :
    Yields (Exhausts mem (text.length + other.length)) (Holds · (text ++ other))
      (strAppendStr mem p q) := by
  unfold strAppendStr
  refine Yields.bind (wholeSlice_yields hq) ?_
  rintro _ rfl
  exact privateStrAppendMemchunk_yields h

/-- The static buffer is left with what the string is given. -/
theorem strLpad_yields (h : Holds p text) (htmp : Holds tmp other) (w : Nat) :
    Yields (Exhausts mem (max text.length w))
      (fun r => Holds r.1 (text.leftpad w 32) ∧ ∃ rest, Holds r.2 rest)
      (strLpad mem p tmp w) := by
  unfold strLpad List.leftpad
  rw [h.len]
  apply Yields.ite
  · intro hwide
    have hzero : w - text.length = 0 := Nat.sub_eq_zero_of_le hwide
    apply Yields.pure
    rw [hzero, List.replicate_zero, List.nil_append]
    exact ⟨h, other, htmp⟩
  · intro hnarrow
    have hsize : w - text.length + text.length ≤ max text.length w := by omega
    refine Yields.bind ((strEmpty_yields htmp).mono (fun f hf => hf.mono (Nat.zero_le _))
      fun _ ht => ht) fun tmp0 h0 => ?_
    have hspaces : Yields (Exhausts mem _) _ (appendSpaces mem tmp0 _) :=
      appendSpaces_yields h0 (w - text.length)
    rw [List.length_nil, Nat.zero_add, List.nil_append] at hspaces
    refine Yields.bind (hspaces.mono (fun f hf => hf.mono (by omega)) fun _ ht => ht)
      fun tmp1 h1 => ?_
    have happend : Yields (Exhausts mem _) _ (strAppendStr mem tmp1 p) := strAppendStr_yields h1 h
    rw [List.length_replicate] at happend
    refine Yields.bind (happend.mono (fun f hf => hf.mono hsize) fun _ ht => ht)
      fun tmp2 h2 => ?_
    have hcopy : Yields (Exhausts mem _) _ (strCopy mem p tmp2) := strCopy_yields h h2
    rw [List.length_append, List.length_replicate] at hcopy
    refine Yields.bind (hcopy.mono (fun f hf => hf.mono hsize) fun _ hp => hp) fun r hr => ?_
    exact Yields.pure ⟨hr, _, h2⟩

/-- A part of one string copied to another. -/
theorem extract_yields (h : Holds p text) (hq : Holds q other) {i n : Nat}
    (hn : i + n ≤ text.length) :
    Yields (Exhausts mem text.length) (Holds · ((text.drop i).take n)) (do
      let part ← p.slice i n
      privateStrAllocMemchunk mem q part) := by
  refine Yields.bind (slice_yields h hn) ?_
  rintro _ rfl
  refine (privateStrAllocMemchunk_yields hq).mono (fun f hf => hf.mono ?_) fun _ hr => hr
  rw [List.length_take, List.length_drop]
  omega

theorem strLeft_yields (h : Holds p text) (hq : Holds q other) {n : Nat}
    (hn : n ≤ text.length) :
    Yields (Exhausts mem text.length) (Holds · (Vsftpd.strLeft text n)) (strLeft mem p q n) := by
  have hpart : Yields (Exhausts mem text.length) (Holds · ((text.drop 0).take n)) (do
      let part ← p.slice 0 n
      privateStrAllocMemchunk mem q part) := extract_yields h hq (by omega)
  rw [List.drop_zero] at hpart
  unfold strLeft
  rwa [h.len, if_neg (by omega)]

theorem strRight_yields (h : Holds p text) (hq : Holds q other) {n : Nat}
    (hn : n ≤ text.length) :
    Yields (Exhausts mem text.length) (Holds · (Vsftpd.strRight text n)) (strRight mem p q n) := by
  have hpart : Yields (Exhausts mem text.length)
      (Holds · ((text.drop (text.length - n)).take n)) (do
      let part ← p.slice (text.length - n) n
      privateStrAllocMemchunk mem q part) := extract_yields h hq (by omega)
  rw [List.take_of_length_le (by rw [List.length_drop]; omega)] at hpart
  unfold strRight
  rwa [h.len, if_neg (by omega)]

theorem strMidToEnd_yields (h : Holds p text) (hq : Holds q other) {i : Nat}
    (hi : i ≤ text.length) :
    Yields (Exhausts mem text.length) (Holds · (Vsftpd.strMidToEnd text i))
      (strMidToEnd mem p q i) := by
  have hpart : Yields (Exhausts mem text.length)
      (Holds · ((text.drop i).take (text.length - i))) (do
      let part ← p.slice i (text.length - i)
      privateStrAllocMemchunk mem q part) := extract_yields h hq (by omega)
  rw [List.take_of_length_le (by rw [List.length_drop])] at hpart
  unfold strMidToEnd
  rwa [h.len, if_neg (by omega)]

end Vsftpd.MyStr
