import Vsftpd.FtpDataIo.DataLoops

/-!
# ASCII uploads

`do_file_recv` hands its converter `count(num_to_write)` bytes from the start
of the receive buffer, one byte short of what the converter reads, so the first
chunk that arrives in ASCII mode fails a bounds check.
-/

namespace Vsftpd.FtpDataIo

open Vsftpd.Lib Vsftpd.Lib.CheckedC
open Vsftpd.Ascii

/-- The upload of a stream that arrives as `chunks` ends without a failed check,
writes the converted stream, and reports its length. -/
def AsciiUploadCorrect (tunableTransChunkSize : Nat) (s : RecvStatics)
    (chunks : List (List UInt8)) : Prop :=
  ∃ fuel ret io s',
    doFileRecv tunableTransChunkSize true fuel s (Io.ofChunks chunks) = .ok (ret, io, s') ∧
      ret.retval = 0 ∧ io.out = crlfToLf chunks.flatten ∧
      ret.transferred = chunks.flatten.length

/-- The casts of the receive buffer at the top of the loop pass. -/
theorem recvbuf_cast {n : Nat} (hn : n ≤ vsftpDataBufsize) :
    checked ((pRecvbuf.add 1).dynamicBoundsCast n) = .ok ⟨some ((), 1), 1, 1 + n⟩ := by
  have haddr : (pRecvbuf.add 1).addr = some ((), 1) := rfl
  have hlo : (pRecvbuf.add 1).lo = 0 := rfl
  have hhi : (pRecvbuf.add 1).hi = vsftpDataBufsize + 1 := rfl
  rw [ArrayPtr.cast_inside n haddr (by omega) (by omega)]
  rfl

theorem recvbuf_start_cast {n : Nat} (hn : n ≤ vsftpDataBufsize) :
    checked (pRecvbuf.dynamicBoundsCast n) = .ok ⟨some ((), 0), 0, 0 + n⟩ := by
  have haddr : pRecvbuf.addr = some ((), 0) := rfl
  have hlo : pRecvbuf.lo = 0 := rfl
  have hhi : pRecvbuf.hi = vsftpDataBufsize + 1 := rfl
  rw [ArrayPtr.cast_inside n haddr (by omega) (by omega)]
  rfl

/-- In ASCII mode a chunk that is not empty stops the transfer. -/
theorem doFileRecvLoop_ascii_stops {chunkSize : Nat} (hsize : chunkSize ≤ vsftpDataBufsize)
    {io : Io} {bs : List UInt8} {rs : List ReadResult} (hreads : io.reads = .data bs :: rs)
    (hbs : bs ≠ []) (hlen : bs.length ≤ chunkSize) (fuel : Nat) (prevCr : Bool)
    (ret : TransferRet) (mem : Mem Unit) :
    doFileRecvLoop true chunkSize (fuel + 1) prevCr ret io mem = .error .bounds := by
  have hpos : 0 < bs.length := List.length_pos_iff.mpr hbs
  have hdone : ¬ (bs.length = 0 ∧ prevCr = false) := by omega
  have hread : io.read = (.data bs, { io with reads := rs }) := by
    simp only [Io.read, hreads]
  have hconv : ∀ mem : Mem Unit,
      vsfAsciiAsciiToBin ⟨some ((), 0), 0, 0 + bs.length⟩ bs.length prevCr mem = none := by
    intro mem
    exact vsfAsciiAsciiToBin_stops rfl rfl hpos prevCr mem
  unfold doFileRecvLoop
  rw [recvbuf_cast (Nat.le_refl _), recvbuf_cast hsize, hread]
  simp only [ok_bind, hdone, if_false, if_true, recvbuf_start_cast (Nat.le_trans hlen hsize),
    hconv, checked_none, error_bind]

theorem doFileRecv_ascii_stops {t : Nat} {bs : List UInt8} {chunks : List (List UInt8)}
    (hbs : bs ≠ []) (hlen : bs.length ≤ getChunkSize t) (fuel : Nat) (s : RecvStatics) :
    doFileRecv t true (fuel + 1) s (Io.ofChunks (bs :: chunks)) = .error .bounds := by
  have hreads : (Io.ofChunks (bs :: chunks)).reads = .data bs :: chunks.map .data := rfl
  unfold doFileRecv
  dsimp only
  rw [doFileRecvLoop_ascii_stops (getChunkSize_le t) hreads hbs hlen, error_bind]

theorem not_asciiUploadCorrect {t : Nat} {bs : List UInt8} {chunks : List (List UInt8)}
    (hbs : bs ≠ []) (hlen : bs.length ≤ getChunkSize t) (s : RecvStatics) :
    ¬ AsciiUploadCorrect t s (bs :: chunks) := by
  rintro ⟨fuel, ret, io, s', hrun, -⟩
  cases fuel with
  | zero => cases hrun
  | succ fuel =>
      rw [doFileRecv_ascii_stops hbs hlen] at hrun
      cases hrun

theorem asciiUploadCorrect_nil (t : Nat) (s : RecvStatics) : AsciiUploadCorrect t s [] := by
  have hrun : ∃ s', doFileRecv t true 1 s (Io.ofChunks []) = .ok ({}, Io.ofChunks [], s') := by
    unfold doFileRecv doFileRecvLoop
    rw [recvbuf_cast (Nat.le_refl _), recvbuf_cast (getChunkSize_le t)]
    exact ⟨_, rfl⟩
  obtain ⟨s', hs'⟩ := hrun
  exact ⟨1, {}, _, s', hs', rfl, rfl, rfl⟩

/-- For every division of a byte stream into chunks the code can receive, the
ASCII upload does what it should exactly when the stream is empty. -/
theorem asciiUploadCorrect_iff (tunableTransChunkSize : Nat) (s : RecvStatics)
    (stream : List UInt8) (chunks : List (List UInt8)) (hstream : chunks.flatten = stream)
    (hchunks : ∀ c ∈ chunks, c ≠ [] ∧ c.length ≤ getChunkSize tunableTransChunkSize) :
    AsciiUploadCorrect tunableTransChunkSize s chunks ↔ stream = [] := by
  cases chunks with
  | nil =>
      subst hstream
      exact ⟨fun _ => rfl, fun _ => asciiUploadCorrect_nil _ s⟩
  | cons c chunks =>
      obtain ⟨hc, hlen⟩ := hchunks c (by simp)
      constructor
      · intro h
        exact absurd h (not_asciiUploadCorrect hc hlen s)
      · intro h
        rw [h] at hstream
        simp [hc] at hstream

theorem asciiUploadCorrect_iff_two_chunks :
    AsciiUploadCorrect 0 {} [[65, cr], [lf, 66]] ↔ [65, cr, lf, 66] = [] :=
  asciiUploadCorrect_iff 0 {} _ _ rfl (by decide)

/-- One letter, sent in one piece, is not stored. -/
theorem ascii_upload_of_one_letter_stops :
    ¬ AsciiUploadCorrect 0 {} [[65]] ∧
      doFileRecv 0 true 3 {} (Io.ofChunks [[65]]) = .error .bounds :=
  ⟨not_asciiUploadCorrect (by decide) (by decide) {},
    doFileRecv_ascii_stops (by decide) (by decide) 2 {}⟩

end Vsftpd.FtpDataIo
