import Mathlib.Data.List.Forall2
import Mathlib.Data.List.TakeWhile
import Vsftpd.MyStr.Holds

/-!
# The lines of a string

`str_getline` and `str_contains_line`: what repeated calls find are the pieces between the
newlines, of which an empty one at the end does not count.
-/

namespace Vsftpd.MyStr

open Vsftpd.Lib Vsftpd.Lib.TextBlock

section
variable (mem : Memory)

/-- Where the line ends; the last argument counts what is left. -/
def lineEnd (p : Mystr) (currPos : Nat) : Nat → StrM Nat
  | 0 => pure currPos
  | n + 1 => do
    let c ← p.load currPos
    if c = 10 then pure currPos
    else if u32 (currPos + 1) = 0 then throw (.bug "integer overflow")
    else lineEnd p (currPos + 1) n

def skipNewline (p : Mystr) (bufLen currPos : Nat) : StrM Nat :=
  if currPos < bufLen then do
    let c ← p.load currPos
    if c = 10 then
      if u32 (currPos + 1) = 0 then throw (.bug "integer overflow") else pure (currPos + 1)
    else pure currPos
  else pure currPos

/-- The two strings, and the position when there was a line. -/
def strGetline (p line : Mystr) (pos : Nat) : StrM (Mystr × Mystr × Option Nat) := do
  let bufLen := p.len
  let p ← strGetbuf mem p
  if pos > bufLen then throw (.bug "p_pos out of range in str_getline")
  else do
    let line ← strEmpty mem line
    if pos = bufLen then pure (p, line, none)
    else do
      let currPos ← lineEnd p pos (bufLen - pos)
      let outLen := currPos - pos
      let currPos ← skipNewline p bufLen currPos
      let text ← p.slice pos outLen
      let line ← privateStrAllocMemchunk mem line text
      pure (p, line, some currPos)

/-- The shorter of the two lengths is compared, then the lengths. -/
def strEqualInternal (buf1 buf2 : Bytes) : Bool :=
  let minlen := min buf1.length buf2.length
  buf1.take minlen = buf2.take minlen ∧ buf1.length = buf2.length

def strEqual (p1 p2 : Mystr) : StrM Bool := do
  let buf1 ← p1.slice 0 p1.len
  let buf2 ← p2.slice 0 p2.len
  pure (strEqualInternal buf1 buf2)

/-- Calls until there is no line, at most so many: each line and the position after it. -/
def getlines (p line : Mystr) (pos : Nat) : Nat → StrM (Option (List (Mystr × Nat)))
  | 0 => pure none
  | n + 1 => do
    let (p, line, next) ← strGetline mem p line pos
    match next with
    | none => pure (some [])
    | some pos => do
      let rest ← getlines p line pos n
      pure (rest.map ((line, pos) :: ·))

/-- The loop of `str_contains_line`, with at most so many rounds. -/
def containsLine (p line curr : Mystr) (pos : Nat) : Nat → StrM (Option Bool)
  | 0 => pure none
  | n + 1 => do
    let (p, curr, next) ← strGetline mem p curr pos
    match next with
    | none => pure (some false)
    | some pos => do
      let equal ← strEqual curr line
      if equal then pure (some true) else containsLine p line curr pos n

/-- `s_curr_line_str` is left from earlier calls. -/
def strContainsLine (p line sCurrLineStr : Mystr) (rounds : Nat) : StrM (Option Bool) :=
  containsLine mem p line sCurrLineStr 0 rounds

end

/-! ## Pieces -/

/-- The pieces between newlines, without an empty one at the end. -/
def pieces (text : Bytes) : List Bytes :=
  let all := text.splitOn 10
  if all.getLast? = some [] then all.dropLast else all

section
variable {mem : Memory} {p line curr : Mystr} {text other pre post : Bytes} {F : Fault → Prop}
  {pos n : Nat}

theorem pieces_nil : pieces [] = [] := rfl

theorem pieces_of_not_mem (h : 10 ∉ text) (hne : text ≠ []) : pieces text = [text] := by
  unfold pieces
  rw [List.splitOn_eq_singleton h]
  exact if_neg fun hlast => hne (Option.some.inj hlast)

theorem pieces_append (h : 10 ∉ pre) : pieces (pre ++ 10 :: post) = pre :: pieces post := by
  have hne := List.splitOn_ne_nil (10 : UInt8) post
  unfold pieces
  dsimp only
  rw [List.splitOn_append_cons_self_of_not_mem h, List.getLast?_cons_of_ne_nil hne,
    List.dropLast_cons_of_ne_nil hne]
  split_ifs <;> rfl

theorem takeWhile_not_mem (text : Bytes) : (10 : UInt8) ∉ text.takeWhile (· ≠ 10) := by
  intro hmem
  have hkept := List.mem_takeWhile_imp hmem
  exact absurd rfl (of_decide_eq_true hkept)

/-- What one call finds is the first piece. -/
theorem strGetline_pieces (hpos : pos < text.length) :
    ∃ piece next, Vsftpd.strGetline text pos = some (piece, next) ∧ pos < next ∧
      next ≤ text.length ∧ pieces (text.drop pos) = piece :: pieces (text.drop next) := by
  have hsplit : (text.drop pos).takeWhile (· ≠ 10) ++ (text.drop pos).dropWhile (· ≠ 10) =
      text.drop pos := List.takeWhile_append_dropWhile
  have hpiece := takeWhile_not_mem (text.drop pos)
  have hlen := congrArg List.length hsplit
  rw [List.length_append, List.length_drop] at hlen
  unfold Vsftpd.strGetline
  rw [if_neg (Nat.ne_of_lt hpos)]
  dsimp only
  generalize (text.drop pos).takeWhile (· ≠ 10) = piece at *
  cases hrest : (text.drop pos).dropWhile (· ≠ 10) with
  | nil =>
      rw [hrest, List.append_nil] at hsplit
      rw [hrest, List.length_nil] at hlen
      have hne : text.drop pos ≠ [] := by
        rw [ne_eq, List.drop_eq_nil_iff]
        omega
      have hend : text.drop (pos + piece.length) = [] := List.drop_eq_nil_of_le (by omega)
      refine ⟨piece, pos + piece.length, by rw [if_neg (by omega)], by omega, by omega, ?_⟩
      rw [← hsplit] at hne ⊢
      rw [pieces_of_not_mem hpiece hne, hend, pieces_nil]
  | cons c post =>
      have hnewline : c = 10 := by
        have hhead := List.head?_dropWhile_not (· ≠ 10) (text.drop pos)
        rw [hrest] at hhead
        simpa using hhead
      rw [hrest, hnewline] at hsplit
      rw [hrest, List.length_cons] at hlen
      have hnext : text.drop (pos + piece.length + 1) = post := by
        rw [Nat.add_assoc, ← List.drop_drop, ← hsplit, ← List.drop_drop, List.drop_left]
        rfl
      refine ⟨piece, pos + piece.length + 1, by rw [if_pos (by omega)], by omega, by omega, ?_⟩
      rw [hnext, ← hsplit, pieces_append hpiece]

/-! ## One call -/

theorem u32_succ_ne_zero (h : Holds p text) (hpos : pos < text.length) : u32 (pos + 1) ≠ 0 := by
  have hmax := h.length_lt
  unfold u32
  unfold intMax at hmax
  omega

theorem lineEnd_yields (h : Holds p text) (hn : pos + n = text.length) :
    Yields F (· = pos + ((text.drop pos).takeWhile (· ≠ 10)).length) (lineEnd p pos n) := by
  induction n generalizing pos with
  | zero =>
      have hend : text.drop pos = [] := List.drop_eq_nil_of_le (by omega)
      apply Yields.pure
      rw [hend]
      rfl
  | succ n ih =>
      have hpos : pos < text.length := by omega
      rw [lineEnd]
      apply Yields.bind (load_yields h hpos)
      intro c hc
      rw [List.getElem?_eq_getElem hpos] at hc
      rw [List.drop_eq_getElem_cons hpos, Option.some.inj hc]
      apply Yields.ite
      · intro hnewline
        apply Yields.pure
        rw [List.takeWhile_cons_of_neg (by simpa using hnewline)]
        rfl
      · intro hother
        rw [if_neg (u32_succ_ne_zero h hpos), List.takeWhile_cons_of_pos (by simpa using hother),
          List.length_cons]
        refine (ih (by omega)).post fun r hr => ?_
        omega

theorem skipNewline_yields (h : Holds p text) (hend : pos < text.length → text[pos]? = some 10) :
    Yields F (· = if pos < text.length then pos + 1 else pos)
      (skipNewline p text.length pos) := by
  unfold skipNewline
  apply Yields.ite
  · intro hpos
    apply Yields.bind (load_yields h hpos)
    intro c hc
    rw [hend hpos] at hc
    rw [if_pos (Option.some.inj hc).symm, if_neg (u32_succ_ne_zero h hpos), if_pos hpos]
    exact Yields.pure rfl
  · intro hpos
    rw [if_neg hpos]
    exact Yields.pure rfl

/-- A line ends at a newline, or at the end of the text. -/
theorem getElem?_lineEnd (text : Bytes) (pos : Nat)
    (h : pos + ((text.drop pos).takeWhile (· ≠ 10)).length < text.length) :
    text[pos + ((text.drop pos).takeWhile (· ≠ 10)).length]? = some 10 := by
  have hsplit : (text.drop pos).takeWhile (· ≠ 10) ++ (text.drop pos).dropWhile (· ≠ 10) =
      text.drop pos := List.takeWhile_append_dropWhile
  have hlen := congrArg List.length hsplit
  rw [List.length_append, List.length_drop] at hlen
  have hhead := List.head?_dropWhile_not (· ≠ 10) (text.drop pos)
  rw [← List.getElem?_drop, ← hsplit, List.getElem?_append_right (by rw [hsplit]),
    hsplit, Nat.sub_self, ← List.head?_eq_getElem?]
  cases hrest : (text.drop pos).dropWhile (· ≠ 10) with
  | nil =>
      rw [hrest, List.length_nil] at hlen
      omega
  | cons c post =>
      rw [hrest] at hhead
      have hnewline : c = 10 := by simpa using hhead
      rw [hnewline]
      rfl

/-- What is returned for the next line of the text. -/
def GotLine (text : Bytes) (found : Option (Bytes × Nat)) (r : Mystr × Mystr × Option Nat) : Prop :=
  Holds r.1 text ∧ Holds r.2.1 ((found.map Prod.fst).getD []) ∧ r.2.2 = found.map Prod.snd

theorem strGetline_yields (h : Holds p text) (hline : Holds line other) (hpos : pos ≤ text.length) :
    Yields (NoMemory mem) (GotLine text (Vsftpd.strGetline text pos))
      (strGetline mem p line pos) := by
  unfold strGetline
  rw [h.len]
  apply Yields.bind (gotbuf_yields h)
  intro q hq
  rw [if_neg (Nat.not_lt.mpr hpos)]
  apply Yields.bind (emptied_yields hline)
  intro line' hline'
  unfold Vsftpd.strGetline
  apply Yields.ite
  · intro hend
    rw [if_pos hend]
    exact Yields.pure ⟨hq, hline', rfl⟩
  · intro hmore
    rw [if_neg hmore]
    apply Yields.bind (lineEnd_yields hq (by omega))
    rintro curr rfl
    apply Yields.bind (skipNewline_yields hq (getElem?_lineEnd text pos))
    rintro next rfl
    rw [Nat.add_sub_cancel_left]
    have hprefix := List.takeWhile_prefix (· ≠ 10) (l := text.drop pos)
    have hfits := hprefix.length_le
    rw [List.length_drop] at hfits
    apply Yields.bind (slice_yields hq (by omega))
    rintro piece rfl
    rw [← List.prefix_iff_eq_take.mp hprefix]
    have hroom := h.length_add_two_le
    apply Yields.bind (copied_yields hline' (by omega))
    intro line'' hline''
    exact Yields.pure ⟨hq, hline'', rfl⟩

theorem strEqual_yields (h : Holds p text) (hother : Holds line other) :
    Yields F (· = decide (text = other)) (strEqual p line) := by
  unfold strEqual
  apply Yields.bind (wholeSlice_yields h)
  rintro _ rfl
  apply Yields.bind (wholeSlice_yields hother)
  rintro _ rfl
  apply Yields.pure
  unfold strEqualInternal
  dsimp only
  rw [decide_eq_decide]
  constructor
  · rintro ⟨htake, hlen⟩
    rwa [hlen, Nat.min_self, ← hlen, List.take_length, hlen, List.take_length] at htake
  · intro heq
    rw [heq]
    exact ⟨rfl, rfl⟩

/-! ## Repeated calls -/

/-- The lines that were found, each with a position in the string. -/
def GotPieces (text : Bytes) (found : List (Mystr × Nat)) : List Bytes → Prop :=
  List.Forall₂ (fun q piece => Holds q.1 piece ∧ q.2 ≤ text.length) found

/-- By induction on the calls: each moves the position on. -/
theorem getlines_yields (h : Holds p text) (hline : Holds line other) (hpos : pos ≤ text.length)
    (hn : text.length - pos < n) :
    Yields (NoMemory mem)
      (fun r => ∃ found, r = some found ∧ GotPieces text found (pieces (text.drop pos)))
      (getlines mem p line pos n) := by
  induction n generalizing p line other pos with
  | zero => exact absurd hn (Nat.not_lt_zero _)
  | succ n ih =>
      rw [getlines]
      apply Yields.bind (strGetline_yields h hline hpos)
      rintro ⟨q, line', next⟩ ⟨hq, hline', hnext⟩
      dsimp only at hq hline' hnext
      rcases Nat.eq_or_lt_of_le hpos with hend | hmore
      · rw [Vsftpd.strGetline, if_pos hend] at hnext
        rw [hnext, hend, List.drop_length]
        exact Yields.pure ⟨[], rfl, .nil⟩
      · obtain ⟨piece, next', hget, hstep, hinside, hpieces⟩ := strGetline_pieces hmore
        rw [hget] at hline' hnext
        rw [hnext, hpieces]
        apply Yields.bind (ih hq hline' hinside (by omega))
        rintro _ ⟨found, rfl, hfound⟩
        exact Yields.pure ⟨_, rfl, .cons ⟨hline', hinside⟩ hfound⟩

theorem containsLine_yields (h : Holds p text) (hline : Holds line other) {current : Bytes}
    (hcurr : Holds curr current) (hpos : pos ≤ text.length) (hn : text.length - pos < n) :
    Yields (NoMemory mem) (· = some (decide (other ∈ pieces (text.drop pos))))
      (containsLine mem p line curr pos n) := by
  induction n generalizing p curr current pos with
  | zero => exact absurd hn (Nat.not_lt_zero _)
  | succ n ih =>
      rw [containsLine]
      apply Yields.bind (strGetline_yields h hcurr hpos)
      rintro ⟨q, curr', next⟩ ⟨hq, hcurr', hnext⟩
      dsimp only at hq hcurr' hnext
      rcases Nat.eq_or_lt_of_le hpos with hend | hmore
      · rw [Vsftpd.strGetline, if_pos hend] at hnext
        rw [hnext, hend, List.drop_length]
        exact Yields.pure rfl
      · obtain ⟨piece, next', hget, hstep, hinside, hpieces⟩ := strGetline_pieces hmore
        rw [hget] at hcurr' hnext
        rw [hnext, hpieces]
        apply Yields.bind (strEqual_yields hcurr' hline)
        rintro _ rfl
        apply Yields.ite
        · intro hequal
          have heq : piece = other := of_decide_eq_true hequal
          apply Yields.pure
          rw [heq, decide_eq_true List.mem_cons_self]
        · intro hdiffer
          have hne : other ≠ piece := fun heq => hdiffer (decide_eq_true heq.symm)
          refine (ih hq hcurr' hinside (by omega)).post ?_
          rintro _ rfl
          simp only [List.mem_cons, hne, false_or]

/-- Calls from the beginning on find the pieces of the string one after the other, and
`str_contains_line` whether a line is one of them. -/
theorem strGetline_finds_pieces (mem : Memory) (h : Holds p text) (hline : Holds line other)
    {current : Bytes} (hcurr : Holds curr current) (hn : text.length < n) :
    Yields (NoMemory mem) (fun r => ∃ found, r = some found ∧ GotPieces text found (pieces text))
        (getlines mem p curr 0 n) ∧
      Yields (NoMemory mem) (· = some (decide (other ∈ pieces text)))
        (strContainsLine mem p line curr n) :=
  ⟨getlines_yields h hcurr (Nat.zero_le _) hn,
    containsLine_yields h hline hcurr (Nat.zero_le _) hn⟩

end

/-- Two lines, the second without a newline. -/
def twoLines : Mystr := ⟨some [97, 10, 98, 0, 0], 3, 4⟩

theorem twoLines_holds : Holds twoLines [97, 10, 98] := by
  have hterm : Terminated 0 [97, 10, 98, 0, 0] ([97, 10, 98] : Bytes) := ⟨[0], rfl⟩
  exact .block hterm (by decide) rfl (by decide)

theorem strGetline_finds_pieces_two :
    Yields (NoMemory zeroed) (fun r => ∃ found, r = some found ∧
        GotPieces [97, 10, 98] found (pieces [97, 10, 98])) (getlines zeroed twoLines {} 0 4) ∧
      Yields (NoMemory zeroed) (· = some (decide ([] ∈ pieces [97, 10, 98])))
        (strContainsLine zeroed twoLines {} {} 4) :=
  strGetline_finds_pieces zeroed twoLines_holds .null .null (by decide)

end Vsftpd.MyStr
