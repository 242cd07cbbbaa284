import Vsftpd.Session.DirListing

/-!
# The writes of a listing

`write_dir_list` collects lines in a buffer.  Whatever the writes answer, they are given
the lines in their order, and nothing is written after a failure.
-/

namespace Vsftpd.Session

open Vsftpd.Lib

section
variable {V : Type} (io : ListIo V)

/-- What the writes of `texts` answer, one after the other. -/
def writeResults : List Bytes → V → List Bool
  | [], _ => []
  | text :: rest, v => (io.write text v).1 :: writeResults rest (io.write text v).2

/-- What is written when the lines `lines` are to be sent, of which `pending` is left. -/
structure Batched (lines : List Bytes) (pending : Bytes) (v : V) (texts : List Bytes)
    (failed : Bool) : Prop where
  nonempty : [] ∉ texts
  fits : ∀ text ∈ texts, text.length ≤ vsftpDirBufsize ∨ text ∈ lines
  sent : failed = false → texts.flatten = pending ∧ ∀ ok ∈ writeResults io texts v, ok = true
  stopped : failed = true → texts.flatten <+: pending ∧
    ∃ k, writeResults io texts v = List.replicate k true ++ [false]

variable {io} {lines : List Bytes} {pending text : Bytes} {v : V} {texts : List Bytes}
  {failed : Bool} {path : Bytes} {dir : Dir}

theorem Batched.nil (lines : List Bytes) (v : V) : Batched io lines [] v [] false where
  nonempty := List.not_mem_nil
  fits := fun _ h => absurd h List.not_mem_nil
  sent := fun _ => ⟨rfl, fun _ h => absurd h List.not_mem_nil⟩
  stopped := fun h => by cases h

/-- A write that succeeds goes in front of the others. -/
theorem Batched.cons (hok : (io.write text v).1 = true) (hne : text ≠ [])
    (hfits : text.length ≤ vsftpDirBufsize ∨ text ∈ lines)
    (h : Batched io lines pending (io.write text v).2 texts failed) :
    Batched io lines (text ++ pending) v (text :: texts) failed where
  nonempty := by
    intro hmem
    rcases List.mem_cons.mp hmem with heq | hmem
    · exact hne heq.symm
    · exact h.nonempty hmem
  fits := by
    intro other hmem
    rcases List.mem_cons.mp hmem with rfl | hmem
    · exact hfits
    · exact h.fits other hmem
  sent := by
    intro hfailed
    have hrest := h.sent hfailed
    constructor
    · rw [List.flatten_cons, hrest.1]
    · intro ok hmem
      rcases List.mem_cons.mp hmem with rfl | hmem
      · exact hok
      · exact hrest.2 ok hmem
  stopped := by
    intro hfailed
    obtain ⟨hpre, k, hresults⟩ := h.stopped hfailed
    constructor
    · rw [List.flatten_cons]
      exact (List.prefix_append_right_inj text).mpr hpre
    · use k + 1
      rw [writeResults, hresults, hok]
      rfl

/-- A write that fails is the last one. -/
theorem Batched.failure (hfail : (io.write text v).1 = false) (hne : text ≠ [])
    (hfits : text.length ≤ vsftpDirBufsize ∨ text ∈ lines) :
    Batched io lines (text ++ pending) v [text] true where
  nonempty := fun hmem => hne (List.mem_singleton.mp hmem).symm
  fits := by
    intro other hmem
    rw [List.mem_singleton.mp hmem]
    exact hfits
  sent := fun h => by cases h
  stopped := by
    intro _
    constructor
    · rw [List.flatten_cons, List.flatten_nil, List.append_nil]
      exact List.prefix_append text pending
    · use 0
      rw [writeResults, hfail]
      rfl

/-- The write of a full buffer, and what is written of the rest after it. -/
theorem writeDirList_flush {buf line : Bytes} {rest : List Bytes}
    (hneeded : writeoutNeeded (buf ++ line) rest = true) :
    writeDirList io path dir buf (line :: rest) v =
      if (io.write (buf ++ line) v).1 = true then
        let run := writeDirList io path dir [] rest (io.write (buf ++ line) v).2
        (⟨path, dir, buf ++ line⟩ :: run.1, run.2)
      else ([⟨path, dir, buf ++ line⟩], (io.write (buf ++ line) v).2, .ok true) := by
  rw [writeDirList, if_pos hneeded]
  show Prog.bind _ _ _ = _
  unfold Prog.bind writeLines Prog.emit
  dsimp only
  split_ifs with hok
  · rfl
  · rfl

theorem writeDirList_keep {buf line : Bytes} {rest : List Bytes}
    (hneeded : ¬ writeoutNeeded (buf ++ line) rest = true) :
    writeDirList io path dir buf (line :: rest) v =
      writeDirList io path dir (buf ++ line) rest v := by
  rw [writeDirList, if_neg hneeded]

/-- The loop with `buf` in the buffer, to which the next line may be added. -/
theorem writeDirList_loop {buf : Bytes} {rest : List Bytes} (hmem : ∀ line ∈ rest, line ∈ lines)
    (hne : ∀ line ∈ rest, line ≠ [])
    (hroom : buf ≠ [] → ∀ line ∈ rest.head?, buf.length + line.length ≤ vsftpDirBufsize)
    (hrest : rest = [] → buf = []) :
    ∃ failed, (writeDirList io path dir buf rest v).2.2 = .ok failed ∧
      Batched io lines (buf ++ rest.flatten) v
        ((writeDirList io path dir buf rest v).1.map (·.text)) failed := by
  induction rest generalizing buf v with
  | nil =>
      rw [hrest rfl]
      exact ⟨false, rfl, Batched.nil lines v⟩
  | cons line rest ih =>
      have hline : line ≠ [] := hne line List.mem_cons_self
      have hrestMem : ∀ l ∈ rest, l ∈ lines := fun l hl => hmem l (List.mem_cons_of_mem line hl)
      have hrestNe : ∀ l ∈ rest, l ≠ [] := fun l hl => hne l (List.mem_cons_of_mem line hl)
      have htext : buf ++ line ≠ [] := fun h => hline (List.append_eq_nil_iff.mp h).2
      have hfits : (buf ++ line).length ≤ vsftpDirBufsize ∨ buf ++ line ∈ lines := by
        by_cases hbuf : buf = []
        · right
          rw [hbuf, List.nil_append]
          exact hmem line List.mem_cons_self
        · left
          rw [List.length_append]
          exact hroom hbuf line rfl
      rw [List.flatten_cons, ← List.append_assoc]
      by_cases hneeded : writeoutNeeded (buf ++ line) rest = true
      · rw [writeDirList_flush hneeded]
        split_ifs with hok
        · have hempty : ([] : Bytes) ≠ [] →
              ∀ next ∈ rest.head?, ([] : Bytes).length + next.length ≤ vsftpDirBufsize :=
            fun h => absurd rfl h
          obtain ⟨failed, hresult, hbatched⟩ := ih hrestMem hrestNe hempty fun _ => rfl
          exact ⟨failed, hresult, hbatched.cons hok htext hfits⟩
        · exact ⟨true, rfl, Batched.failure (Bool.eq_false_iff.mpr hok) htext hfits⟩
      · rw [writeDirList_keep hneeded]
        -- the next line fits behind what is in the buffer
        apply ih hrestMem hrestNe
        · intro _ next hnext
          obtain ⟨tail, rfl⟩ := List.head?_eq_some_iff.mp hnext
          simpa [writeoutNeeded] using hneeded
        · intro hnil
          rw [hnil] at hneeded
          exact absurd rfl hneeded

/-- The lines are sent in writes that are not empty, each of at most the size of the
buffer or of one line; the first write that fails is the last. -/
theorem writeDirList_batches (io : ListIo V) (path : Bytes) (dir : Dir) (v : V)
    (lines : List Bytes) (hlines : ∀ line ∈ lines, line ≠ []) :
    ∃ failed, (writeDirList io path dir [] lines v).2.2 = .ok failed ∧
      Batched io lines lines.flatten v
        ((writeDirList io path dir [] lines v).1.map (·.text)) failed :=
  writeDirList_loop (fun _ h => h) hlines (fun h => absurd rfl h) fun _ => rfl

end

/-- Two writes succeed. -/
def twoWrites : ListIo Nat where
  write := fun _ n => (n < 2, n + 1)
  timeSec := fun n => (0, n)

theorem writeDirList_batches_two :
    ∃ failed, (writeDirList twoWrites [] ⟨[], true⟩ [] [bytes "a\r\n", bytes "b\r\n"] 0).2.2 =
        .ok failed ∧
      Batched twoWrites [bytes "a\r\n", bytes "b\r\n"]
        [bytes "a\r\n", bytes "b\r\n"].flatten 0
        ((writeDirList twoWrites [] ⟨[], true⟩ [] [bytes "a\r\n", bytes "b\r\n"] 0).1.map (·.text))
        failed :=
  writeDirList_batches twoWrites [] ⟨[], true⟩ 0 [bytes "a\r\n", bytes "b\r\n"] (by decide)

end Vsftpd.Session
