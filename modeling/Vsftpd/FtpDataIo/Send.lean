import Mathlib.Data.List.Basic
import Vsftpd.FtpDataIo.DataLoops

/-!
# Downloads through the read/write loop

A binary download is exact.  An ASCII download converts into the read buffer
but sends from `p_asciibuf`, which nothing ever writes: what goes out are zero
bytes, as many as the conversion stored.
-/

namespace Vsftpd.FtpDataIo

open Vsftpd.Lib Vsftpd.Lib.CheckedC
open Vsftpd.Ascii

/-- The download of a file read as `chunks` ends without a failed check, sends
the file (converted in ASCII mode), and reports what it sent. -/
def DownloadCorrect (tunableTransChunkSize : Nat) (isAscii : Bool) (s : SendStatics)
    (chunks : List (List UInt8)) : Prop :=
  ∃ fuel ret io s',
    doFileSendRwloop tunableTransChunkSize isAscii fuel s (Io.ofChunks chunks) =
        .ok (ret, io, s') ∧
      ret.retval = 0 ∧
      io.out = (if isAscii then lfToCrlf false chunks.flatten else chunks.flatten) ∧
      ret.transferred = io.out.length

/-- The condition under which a download is right. -/
def DownloadSafe (isAscii : Bool) (chunks : List (List UInt8)) : Prop :=
  isAscii = false ∨
    ((∀ b ∈ chunks.flatten, b = 0) ∧ ∀ c ∈ chunks, 2 * c.length ≤ vsftpDataBufsize)

/-! ## The casts -/

theorem readbuf_cast {n : Nat} (hn : n ≤ vsftpDataBufsize) :
    pReadbuf.dynamicBoundsCast n = some ⟨some (.read, 0), 0, 0 + n⟩ := by
  have haddr : pReadbuf.addr = some (.read, 0) := rfl
  have hlo : pReadbuf.lo = 0 := rfl
  have hhi : pReadbuf.hi = vsftpDataBufsize := rfl
  exact ArrayPtr.cast_inside n haddr (by omega) (by omega)

theorem readbuf_cast_outside {n : Int} (hn : vsftpDataBufsize < n) :
    pReadbuf.dynamicBoundsCast n = none := by
  have haddr : pReadbuf.addr = some (.read, 0) := rfl
  have hhi : pReadbuf.hi = vsftpDataBufsize := rfl
  exact ArrayPtr.cast_outside n haddr (by omega)

/-- A cast of `p_readbuf` fails or keeps its address. -/
theorem readbuf_cast_cases (n : Int) :
    pReadbuf.dynamicBoundsCast n = none ∨
      pReadbuf.dynamicBoundsCast n = some ⟨some (.read, 0), 0, 0 + n⟩ := by
  have haddr : pReadbuf.addr = some (.read, 0) := rfl
  unfold ArrayPtr.dynamicBoundsCast
  rw [haddr]
  dsimp only
  split_ifs
  · exact .inr rfl
  · exact .inl rfl

/-- `p_writefrom_buf` in ASCII mode. -/
def asciiWritefrom : ArrayPtr SendBuf := ⟨some (.ascii, 0), 0, 0 + vsftpDataBufsize⟩

def binaryWritefrom : ArrayPtr SendBuf := ⟨some (.read, 0), 0, 0 + vsftpDataBufsize⟩

theorem asciiWritefrom_cast {n : Nat} (hn : n ≤ vsftpDataBufsize) :
    asciiWritefrom.dynamicBoundsCast n = some ⟨some (.ascii, 0), 0, 0 + n⟩ := by
  have hlo : asciiWritefrom.lo = 0 := rfl
  have hhi : asciiWritefrom.hi = 0 + vsftpDataBufsize := rfl
  exact ArrayPtr.cast_inside n rfl (by omega) (by omega)

theorem binaryWritefrom_cast {n : Nat} (hn : n ≤ vsftpDataBufsize) :
    binaryWritefrom.dynamicBoundsCast n = some ⟨some (.read, 0), 0, 0 + n⟩ := by
  have hlo : binaryWritefrom.lo = 0 := rfl
  have hhi : binaryWritefrom.hi = 0 + vsftpDataBufsize := rfl
  exact ArrayPtr.cast_inside n rfl (by omega) (by omega)

/-! ## The ASCII buffer stays zero -/

def AsciiZero (mem : Mem SendBuf) : Prop := ∀ i, mem .ascii i = 0

theorem fill_read_ascii (bs : List UInt8) (mem : Mem SendBuf) (lo hi i : Int) :
    (⟨some (SendBuf.read, 0), lo, hi⟩ : ArrayPtr SendBuf).fill bs mem .ascii i =
      mem .ascii i :=
  ArrayPtr.fill_other rfl (by decide)

/-- The conversion the loop makes: input and output both at the start of the
read buffer. -/
theorem inPlaceLoopAt (n : Nat) :
    LoopAt (⟨some (SendBuf.read, 0), 0, 0 + n⟩ : ArrayPtr SendBuf)
      ⟨some (.read, 0), 0 + 0, 0 + 2 * n⟩ .read .read 0 0 n 0 0 where
  inAddr := rfl
  inLo := Int.le_refl _
  inHi := Int.le_refl _
  outAddr := rfl
  outLo := Int.le_refl _
  outHi := Int.le_refl _
  room := Nat.le_refl _

/-- In place, the conversion fails no check, stores at most twice its input and
leaves the ASCII buffer alone; over NUL bytes it stores as much as it reads. -/
theorem binToAscii_in_place (n : Nat) (prevCr : Bool) (mem : Mem SendBuf) :
    ∃ conv mem',
      vsfAsciiBinToAscii ⟨some (.read, 0), 0, 0 + n⟩ ⟨some (.read, 0), 0, 0 + (2 * n : Nat)⟩ n
          prevCr mem = some (conv, mem') ∧
        conv.stored ≤ 2 * n ∧ (∀ i, mem' .ascii i = mem .ascii i) ∧
        ((∀ k : Nat, k < n → mem .read k = 0) → conv.stored = n) := by
  have hat := inPlaceLoopAt n
  obtain ⟨conv, mem', hrun, hstored, hframe⟩ :=
    binToAsciiLoop_safe hat (n := n) (Nat.zero_add n) (if prevCr then cr else 0) prevCr mem
  refine ⟨conv, mem', hrun, hstored, fun i => ?_, fun hzero => ?_⟩
  · rw [hframe .ascii (by decide)]
  · obtain ⟨conv', mem'', hrun', hstored'⟩ :=
      binToAsciiLoop_zeros hat (n := n) (Nat.zero_add n) (if prevCr then cr else 0) prevCr mem
        fun k _ hk => by rw [Int.zero_add]; exact hzero k hk
    rw [hrun'] at hrun
    simp only [Option.some.injEq, Prod.mk.injEq] at hrun
    rw [← hrun.1]
    exact hstored'

/-! ## The conversion step -/

theorem sendConvert_ascii_fits {n : Nat} (hn : 2 * n ≤ vsftpDataBufsize) (prevCr : Bool)
    (mem : Mem SendBuf) :
    ∃ stored prevCr' mem', sendConvert true n prevCr mem = .ok (stored, prevCr', mem') ∧
      stored ≤ 2 * n ∧ (∀ i, mem' .ascii i = mem .ascii i) ∧
      ((∀ k : Nat, k < n → mem .read k = 0) → stored = n) := by
  obtain ⟨conv, mem', hconv, hstored, hframe, hzero⟩ := binToAscii_in_place n prevCr mem
  refine ⟨conv.stored, conv.lastWasCr, mem', ?_, hstored, hframe, hzero⟩
  unfold sendConvert
  rw [if_pos rfl, readbuf_cast (by omega), readbuf_cast hn]
  simp only [checked_some, ok_bind, hconv]
  rfl

theorem sendConvert_ascii_stops {n : Nat} (hn : vsftpDataBufsize < 2 * n) (prevCr : Bool)
    (mem : Mem SendBuf) : sendConvert true n prevCr mem = .error .bounds := by
  unfold sendConvert
  rw [if_pos rfl, readbuf_cast_outside (n := (2 * n : Nat)) (by omega)]
  obtain hcast | hcast := readbuf_cast_cases n
  · rw [hcast]
    rfl
  · rw [hcast]
    rfl

theorem sendConvert_ascii_frame {isAscii : Bool} {n stored : Nat} {prevCr prevCr' : Bool}
    {mem mem' : Mem SendBuf} (h : sendConvert isAscii n prevCr mem = .ok (stored, prevCr', mem'))
    (i : Int) : mem' .ascii i = mem .ascii i := by
  cases isAscii with
  | false =>
      cases h
      rfl
  | true =>
      by_cases hn : 2 * n ≤ vsftpDataBufsize
      · obtain ⟨_, _, mem'', hrun, -, hframe, -⟩ := sendConvert_ascii_fits hn prevCr mem
        rw [hrun] at h
        cases h
        exact hframe i
      · rw [sendConvert_ascii_stops (by omega)] at h
        cases h

/-! ## The loop leaves the ASCII buffer alone -/

/-- No turn of the loop touches the ASCII buffer, whatever is read and however
writes go. -/
theorem doFileSendRwLoop_ascii_frame {isAscii : Bool} {chunkSize : Nat}
    {pWritefromBuf : ArrayPtr SendBuf} {fuel : Nat} {prevCr : Bool} {ret ret' : TransferRet}
    {io io' : Io} {mem mem' : Mem SendBuf}
    (hrun : doFileSendRwLoop isAscii chunkSize pWritefromBuf fuel prevCr ret io mem =
      .ok (ret', io', mem')) (i : Int) : mem' .ascii i = mem .ascii i := by
  induction fuel generalizing prevCr ret io mem with
  | zero => cases hrun
  | succ fuel ih =>
      unfold doFileSendRwLoop at hrun
      obtain hcast | hcast := readbuf_cast_cases chunkSize
      · rw [hcast] at hrun
        cases hrun
      rw [hcast, checked_some, ok_bind] at hrun
      split at hrun
      · cases hrun
        rfl
      next bs io1 hread =>
      dsimp only at hrun
      have hfill := fill_read_ascii bs mem 0 (0 + chunkSize) i
      split_ifs at hrun with hbs
      · cases hrun
        exact hfill
      obtain ⟨⟨stored, prevCr', mem1⟩, hconv, hrun⟩ := bind_eq_ok hrun
      obtain ⟨p, -, hrun⟩ := bind_eq_ok hrun
      have hmem1 : mem1 .ascii i = mem .ascii i := (sendConvert_ascii_frame hconv i).trans hfill
      dsimp only at hrun
      split_ifs at hrun with hshort
      · cases hrun
        exact hmem1
      · exact (ih hrun).trans hmem1

theorem doFileSendRwloop_asciiZero {t fuel : Nat} {isAscii : Bool} {s s' : SendStatics}
    {io io' : Io} {ret : TransferRet} (hzero : AsciiZero s.mem)
    (hrun : doFileSendRwloop t isAscii fuel s io = .ok (ret, io', s')) : AsciiZero s'.mem := by
  have hread : AsciiZero s.allocRead.mem := by
    intro i
    unfold SendStatics.allocRead
    split
    · exact hzero i
    · exact hzero i
  have hascii : AsciiZero (if isAscii then s.allocRead.allocAscii else s.allocRead).mem := by
    intro i
    unfold SendStatics.allocAscii
    split_ifs
    · exact hread i
    · rfl
    · exact hread i
  obtain ⟨⟨ret1, io1, mem1⟩, hloop, hrun⟩ := bind_eq_ok hrun
  cases hrun
  intro i
  exact (doFileSendRwLoop_ascii_frame hloop i).trans (hascii i)

/-- However many downloads came before, `p_asciibuf` holds zeros only. -/
theorem SendStatics.Reachable.asciiZero {s : SendStatics} (hs : s.Reachable) :
    AsciiZero s.mem := by
  induction hs with
  | init => exact fun _ => rfl
  | send _ hrun ih => exact doFileSendRwloop_asciiZero ih hrun

/-! ## One turn of the loop -/

theorem bytes_asciiZero {mem : Mem SendBuf} (hzero : AsciiZero mem) (n : Nat) (lo hi : Int) :
    (⟨some (SendBuf.ascii, 0), lo, hi⟩ : ArrayPtr SendBuf).bytes n mem =
      List.replicate n 0 := by
  apply List.ext_getElem
  · simp [ArrayPtr.bytes]
  · intro k hk hk'
    simp only [ArrayPtr.bytes, List.getElem_map, List.getElem_replicate]
    exact hzero _

/-- An ASCII turn over a chunk that fits sends zeros, as many as the conversion
stored. -/
theorem ascii_turn {chunkSize : Nat} (hsize : chunkSize ≤ vsftpDataBufsize) {c : List UInt8}
    (hc : c ≠ []) (hfit : 2 * c.length ≤ vsftpDataBufsize) (rs : List ReadResult)
    (prevCr : Bool) {mem : Mem SendBuf} (hzero : AsciiZero mem) :
    ∃ n prevCr' mem', AsciiZero mem' ∧ ((∀ b ∈ c, b = 0) → n = c.length) ∧
      ∀ fuel ret out,
        doFileSendRwLoop true chunkSize asciiWritefrom (fuel + 1) prevCr ret
            ⟨.data c :: rs, [], out⟩ mem =
          doFileSendRwLoop true chunkSize asciiWritefrom fuel prevCr'
            { ret with transferred := ret.transferred + n }
            ⟨rs, [], out ++ List.replicate n 0⟩ mem' := by
  let readTmp : ArrayPtr SendBuf := ⟨some (.read, 0), 0, 0 + chunkSize⟩
  obtain ⟨n, prevCr', mem', hconv, hn, hframe, hcopy⟩ :=
    sendConvert_ascii_fits hfit prevCr (readTmp.fill c mem)
  have hzero' : AsciiZero mem' := by
    intro i
    rw [hframe i, fill_read_ascii, hzero i]
  refine ⟨n, prevCr', mem', hzero', fun hall => hcopy fun k hk => ?_, fun fuel ret out => ?_⟩
  · have hat := ArrayPtr.fill_at (p := readTmp) (m := mem) rfl hk
    rw [Int.zero_add] at hat
    rw [hat]
    exact hall _ (List.getElem_mem hk)
  · have hlen : ¬ c.length = 0 := by simpa using hc
    rw [doFileSendRwLoop, readbuf_cast hsize, checked_some, ok_bind, Io.read_cons]
    dsimp only
    rw [if_neg hlen, hconv, ok_bind]
    dsimp only
    rw [asciiWritefrom_cast (by omega), checked_some, ok_bind, bytes_asciiZero hzero',
      Io.write_full, List.length_replicate]
    dsimp only
    rw [if_neg (by omega), TransferRet.countWritten_ofNat]

/-- A chunk of more than half the buffer fails the cast to twice its length. -/
theorem ascii_turn_stops {chunkSize : Nat} (hsize : chunkSize ≤ vsftpDataBufsize)
    {c : List UInt8} (hbig : vsftpDataBufsize < 2 * c.length) (rs : List ReadResult)
    (prevCr : Bool) (mem : Mem SendBuf) (fuel : Nat) (ret : TransferRet) (out : List UInt8) :
    doFileSendRwLoop true chunkSize asciiWritefrom (fuel + 1) prevCr ret
      ⟨.data c :: rs, [], out⟩ mem = .error .bounds := by
  have hlen : ¬ c.length = 0 := by omega
  rw [doFileSendRwLoop, readbuf_cast hsize, checked_some, ok_bind, Io.read_cons]
  dsimp only
  rw [if_neg hlen, sendConvert_ascii_stops hbig, error_bind]

theorem binary_turn {chunkSize : Nat} (hsize : chunkSize ≤ vsftpDataBufsize) {c : List UInt8}
    (hc : c ≠ []) (hfit : c.length ≤ chunkSize) (rs : List ReadResult) (prevCr : Bool)
    (mem : Mem SendBuf) :
    ∃ mem', ∀ fuel ret out,
      doFileSendRwLoop false chunkSize binaryWritefrom (fuel + 1) prevCr ret
          ⟨.data c :: rs, [], out⟩ mem =
        doFileSendRwLoop false chunkSize binaryWritefrom fuel prevCr
          { ret with transferred := ret.transferred + c.length } ⟨rs, [], out ++ c⟩ mem' := by
  let readTmp : ArrayPtr SendBuf := ⟨some (.read, 0), 0, 0 + chunkSize⟩
  refine ⟨readTmp.fill c mem, fun fuel ret out => ?_⟩
  have hlen : ¬ c.length = 0 := by simpa using hc
  have hconv : ∀ m, sendConvert false c.length prevCr m = .ok (c.length, prevCr, m) :=
    fun m => rfl
  have hsent : (⟨some (SendBuf.read, 0), 0, 0 + c.length⟩ : ArrayPtr SendBuf).bytes c.length
      (readTmp.fill c mem) = c := ArrayPtr.bytes_fill (p := readTmp) rfl
  rw [doFileSendRwLoop, readbuf_cast hsize, checked_some, ok_bind, Io.read_cons]
  dsimp only
  rw [if_neg hlen, hconv, ok_bind]
  dsimp only
  rw [binaryWritefrom_cast (Nat.le_trans hfit hsize), checked_some, ok_bind, hsent, Io.write_full]
  dsimp only
  rw [if_neg (by omega), TransferRet.countWritten_ofNat]

theorem last_turn (isAscii : Bool) {chunkSize : Nat} (hsize : chunkSize ≤ vsftpDataBufsize)
    (pWritefromBuf : ArrayPtr SendBuf) (fuel : Nat) (prevCr : Bool) (ret : TransferRet)
    (out : List UInt8) (mem : Mem SendBuf) :
    ∃ mem', doFileSendRwLoop isAscii chunkSize pWritefromBuf (fuel + 1) prevCr ret
      ⟨[], [], out⟩ mem = .ok (ret, ⟨[], [], out⟩, mem') := by
  rw [doFileSendRwLoop, readbuf_cast hsize, checked_some, ok_bind]
  exact ⟨_, rfl⟩

/-! ## Whole runs -/

theorem binary_run {chunkSize : Nat} (hsize : chunkSize ≤ vsftpDataBufsize)
    (chunks : List (List UInt8)) (hchunks : ∀ c ∈ chunks, c ≠ [] ∧ c.length ≤ chunkSize)
    (prevCr : Bool) (ret : TransferRet) (out : List UInt8) (mem : Mem SendBuf) :
    ∃ mem', doFileSendRwLoop false chunkSize binaryWritefrom (chunks.length + 1) prevCr ret
        ⟨chunks.map .data, [], out⟩ mem =
      .ok ({ ret with transferred := ret.transferred + chunks.flatten.length },
        ⟨[], [], out ++ chunks.flatten⟩, mem') := by
  induction chunks generalizing ret out mem with
  | nil =>
      obtain ⟨mem', h⟩ := last_turn false hsize binaryWritefrom 0 prevCr ret out mem
      exact ⟨mem', by simpa using h⟩
  | cons c chunks ih =>
      obtain ⟨hc, hfit⟩ := hchunks c (by simp)
      obtain ⟨mem1, hturn⟩ := binary_turn hsize hc hfit (chunks.map .data) prevCr mem
      obtain ⟨mem', hrest⟩ := ih (fun d hd => hchunks d (by simp [hd]))
        { ret with transferred := ret.transferred + c.length } (out ++ c) mem1
      refine ⟨mem', ?_⟩
      rw [List.map_cons, List.length_cons, hturn, hrest]
      simp [Nat.add_assoc]

theorem ascii_run {chunkSize : Nat} (hsize : chunkSize ≤ vsftpDataBufsize)
    (chunks : List (List UInt8))
    (hchunks : ∀ c ∈ chunks, c ≠ [] ∧ 2 * c.length ≤ vsftpDataBufsize)
    (hfile : ∀ b ∈ chunks.flatten, b = 0) (prevCr : Bool) (ret : TransferRet)
    (out : List UInt8) (mem : Mem SendBuf) (hzero : AsciiZero mem) :
    ∃ mem', doFileSendRwLoop true chunkSize asciiWritefrom (chunks.length + 1) prevCr ret
        ⟨chunks.map .data, [], out⟩ mem =
      .ok ({ ret with transferred := ret.transferred + chunks.flatten.length },
        ⟨[], [], out ++ List.replicate chunks.flatten.length 0⟩, mem') := by
  induction chunks generalizing ret out mem prevCr with
  | nil =>
      obtain ⟨mem', h⟩ := last_turn true hsize asciiWritefrom 0 prevCr ret out mem
      exact ⟨mem', by simpa using h⟩
  | cons c chunks ih =>
      obtain ⟨hc, hfit⟩ := hchunks c (by simp)
      obtain ⟨n, prevCr', mem1, hzero1, hn, hturn⟩ :=
        ascii_turn hsize hc hfit (chunks.map .data) prevCr hzero
      have hnc : n = c.length := hn fun b hb => hfile b (by simp [hb])
      subst hnc
      have hfile' : ∀ b ∈ chunks.flatten, b = 0 := fun b hb =>
        hfile b (by rw [List.flatten_cons]; exact List.mem_append_right _ hb)
      obtain ⟨mem', hrest⟩ := ih (fun d hd => hchunks d (by simp [hd])) hfile' prevCr'
        { ret with transferred := ret.transferred + c.length } (out ++ List.replicate c.length 0)
        mem1 hzero1
      refine ⟨mem', ?_⟩
      rw [List.map_cons, List.length_cons, hturn, hrest]
      simp only [List.flatten_cons, List.length_append, List.append_assoc, Nat.add_assoc,
        ← List.replicate_add]

/-- An ASCII run that ends without a failed check read only chunks that fit,
and sent nothing but zeros. -/
theorem ascii_run_sends_zeros {chunkSize : Nat} (hsize : chunkSize ≤ vsftpDataBufsize)
    (chunks : List (List UInt8)) (hchunks : ∀ c ∈ chunks, c ≠ []) {fuel : Nat} {prevCr : Bool}
    {ret ret' : TransferRet} {out : List UInt8} {io : Io} {mem mem' : Mem SendBuf}
    (hzero : AsciiZero mem)
    (hrun : doFileSendRwLoop true chunkSize asciiWritefrom fuel prevCr ret
      ⟨chunks.map .data, [], out⟩ mem = .ok (ret', io, mem')) :
    (∀ c ∈ chunks, 2 * c.length ≤ vsftpDataBufsize) ∧
      ∃ n, io.out = out ++ List.replicate n 0 := by
  induction chunks generalizing fuel prevCr ret out mem with
  | nil =>
      cases fuel with
      | zero => cases hrun
      | succ fuel =>
          obtain ⟨mem1, hlast⟩ :=
            last_turn true hsize asciiWritefrom fuel prevCr ret out mem
          rw [List.map_nil, hlast] at hrun
          cases hrun
          exact ⟨by simp, 0, by simp⟩
  | cons c chunks ih =>
      cases fuel with
      | zero => cases hrun
      | succ fuel =>
          have hc := hchunks c (by simp)
          rw [List.map_cons] at hrun
          by_cases hfit : 2 * c.length ≤ vsftpDataBufsize
          · obtain ⟨n, prevCr', mem1, hzero1, -, hturn⟩ :=
              ascii_turn hsize hc hfit (chunks.map .data) prevCr hzero
            rw [hturn] at hrun
            obtain ⟨hrest, k, hout⟩ := ih (fun d hd => hchunks d (by simp [hd])) hzero1 hrun
            refine ⟨by simpa [hfit] using hrest, n + k, ?_⟩
            rw [hout, List.append_assoc, List.replicate_add]
          · rw [ascii_turn_stops hsize (by omega)] at hrun
            cases hrun

/-! ## The converted stream -/

theorem lfToCrlf_zeros {stream : List UInt8} (h : ∀ b ∈ stream, b = 0) (prevCr : Bool) :
    lfToCrlf prevCr stream = List.replicate stream.length 0 := by
  induction stream generalizing prevCr with
  | nil => rfl
  | cons b stream ih =>
      obtain rfl : b = 0 := h b (by simp)
      have hlf : ¬ ((0 : UInt8) = lf ∧ prevCr = false) := by
        rintro ⟨h0, -⟩
        exact absurd h0 (by decide)
      rw [lfToCrlf, if_neg hlf, ih fun c hc => h c (by simp [hc])]
      rfl

theorem mem_lfToCrlf {stream : List UInt8} {b : UInt8} (h : b ∈ stream) (prevCr : Bool) :
    b ∈ lfToCrlf prevCr stream := by
  induction stream generalizing prevCr with
  | nil => simp at h
  | cons c stream ih =>
      rw [lfToCrlf, List.mem_append]
      rcases List.mem_cons.mp h with rfl | hmem
      · left
        split_ifs with hlf
        · simp [hlf.1]
        · simp
      · exact .inr (ih hmem _)

/-! ## The download -/

theorem doFileSendRwloop_binary {t : Nat} {chunks : List (List UInt8)}
    (hchunks : ∀ c ∈ chunks, c ≠ [] ∧ c.length ≤ getChunkSize t) (s : SendStatics) :
    DownloadCorrect t false s chunks := by
  obtain ⟨mem', hrun⟩ :=
    binary_run (getChunkSize_le t) chunks hchunks false {} [] s.allocRead.mem
  refine ⟨chunks.length + 1, { transferred := 0 + chunks.flatten.length },
    ⟨[], [], [] ++ chunks.flatten⟩, { s.allocRead with mem := mem' }, ?_, rfl, rfl, ?_⟩
  · unfold doFileSendRwloop
    simp only [Bool.false_eq_true, if_false]
    exact congrArg (fun r => r >>= _) hrun
  · simp

theorem asciiZero_alloc {s : SendStatics} (hs : s.Reachable) :
    AsciiZero s.allocRead.allocAscii.mem := by
  intro i
  unfold SendStatics.allocAscii
  split_ifs
  · have hzero := hs.asciiZero i
    unfold SendStatics.allocRead
    split_ifs
    · exact hzero
    · exact hzero
  · rfl

theorem doFileSendRwloop_ascii_zeros {t : Nat} {chunks : List (List UInt8)}
    (hchunks : ∀ c ∈ chunks, c ≠ [] ∧ 2 * c.length ≤ vsftpDataBufsize)
    (hfile : ∀ b ∈ chunks.flatten, b = 0) {s : SendStatics} (hs : s.Reachable) :
    DownloadCorrect t true s chunks := by
  obtain ⟨mem', hrun⟩ := ascii_run (getChunkSize_le t) chunks hchunks hfile false {} []
    s.allocRead.allocAscii.mem (asciiZero_alloc hs)
  refine ⟨chunks.length + 1, { transferred := 0 + chunks.flatten.length },
    ⟨[], [], [] ++ List.replicate chunks.flatten.length 0⟩,
    { s.allocRead.allocAscii with mem := mem' }, ?_, rfl, ?_, ?_⟩
  · unfold doFileSendRwloop
    simp only [if_true]
    exact congrArg (fun r => r >>= _) hrun
  · rw [if_pos rfl, lfToCrlf_zeros hfile, List.nil_append]
  · simp

/-- A right ASCII download had chunks of at most half the buffer and a file of
NUL bytes. -/
theorem downloadSafe_of_ascii {t : Nat} {chunks : List (List UInt8)}
    (hchunks : ∀ c ∈ chunks, c ≠ []) {s : SendStatics} (hs : s.Reachable)
    (h : DownloadCorrect t true s chunks) :
    (∀ b ∈ chunks.flatten, b = 0) ∧ ∀ c ∈ chunks, 2 * c.length ≤ vsftpDataBufsize := by
  obtain ⟨fuel, ret, io, s', hrun, -, hout, -⟩ := h
  obtain ⟨⟨ret1, io1, mem1⟩, hloop, hrun⟩ := bind_eq_ok hrun
  cases hrun
  obtain ⟨hfit, n, hzeros⟩ :=
    ascii_run_sends_zeros (getChunkSize_le t) chunks hchunks (asciiZero_alloc hs) hloop
  refine ⟨fun b hb => ?_, hfit⟩
  have hmem : b ∈ List.replicate n 0 := by
    rw [if_pos rfl, hzeros, List.nil_append] at hout
    rw [hout]
    exact mem_lfToCrlf hb false
  exact (List.mem_replicate.mp hmem).2

/-- For every file and every division into reads the code can make, and after
any earlier downloads, the download is right exactly in binary mode, or when
the file is all NUL bytes and no read fills more than half the buffer. -/
theorem downloadCorrect_iff (tunableTransChunkSize : Nat) (isAscii : Bool) (s : SendStatics)
    (hs : s.Reachable) (chunks : List (List UInt8))
    (hchunks : ∀ c ∈ chunks, c ≠ [] ∧ c.length ≤ getChunkSize tunableTransChunkSize) :
    DownloadCorrect tunableTransChunkSize isAscii s chunks ↔ DownloadSafe isAscii chunks := by
  cases isAscii with
  | false =>
      constructor
      · intro _
        exact .inl rfl
      · intro _
        exact doFileSendRwloop_binary hchunks s
  | true =>
      constructor
      · intro h
        exact .inr (downloadSafe_of_ascii (fun c hc => (hchunks c hc).1) hs h)
      · rintro (h | ⟨hfile, hfit⟩)
        · cases h
        · exact doFileSendRwloop_ascii_zeros (fun c hc => ⟨(hchunks c hc).1, hfit c hc⟩) hfile hs

theorem downloadCorrect_iff_text :
    DownloadCorrect 0 true {} [[65, lf], [66]] ↔ DownloadSafe true [[65, lf], [66]] :=
  downloadCorrect_iff 0 true {} .init _ (by decide)

/-- One letter, downloaded in ASCII mode, arrives as a NUL byte. -/
theorem ascii_download_of_one_letter :
    ¬ DownloadCorrect 0 true {} [[65]] ∧
      ∃ s', doFileSendRwloop 0 true 2 {} (Io.ofChunks [[65]]) =
        .ok ({ transferred := 1 }, ⟨[], [], [0]⟩, s') := by
  constructor
  · intro h
    have hsafe := downloadSafe_of_ascii (by decide) .init h
    exact absurd (hsafe.1 65 (by decide)) (by decide)
  · exact ⟨_, rfl⟩

end Vsftpd.FtpDataIo
