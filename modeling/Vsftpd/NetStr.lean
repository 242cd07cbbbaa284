import Vsftpd.Convert
import Vsftpd.Lib.ExceptRules
import Vsftpd.Lib.TextBlock

/-!
# Lines from the network

`str_netfd_alloc` of `netstr.c`.  It peeks at what has arrived, looks for the
terminator in it and reads just what it has looked at.  The buffer is the caller's:
what it holds at first, and behind what was read, is unknown.
-/

namespace Vsftpd.NetStr

open Vsftpd.Lib Vsftpd.Lib.TextBlock

/-- How a call may fail: by `bug()`, by `die()`, by a bounds check, or for want of turns. -/
inductive Fault where
  | bug (text : String)
  | die (text : String)
  | trap
  | fuel
  deriving DecidableEq, Repr

/-- A buffer whose length is an `unsigned int`. -/
structure ReadBuffer where
  block : Bytes
  isUnsigned : block.length < 2 ^ 32

def ReadBuffer.maxlen (buf : ReadBuffer) : Nat := buf.block.length

/-- What a peek or a read returns, the bytes it put at its pointer, and the session after it. -/
structure NetResult (S : Type) where
  retval : Int
  data : Bytes
  sess : S

structure NetReader (S : Type) where
  peek : S → Nat → NetResult S
  read : S → Nat → NetResult S

/-- The return value, the string, the buffer and the session. -/
structure LineResult (S : Type) where
  retval : Int
  str : Bytes
  block : Bytes
  sess : S

/-! ## `str_alloc_alt_term` -/

/-- `len`, when `p_search` stands before the bytes that are left of the buffer. -/
def altTermLen (term : UInt8) : Bytes → Nat → Except Fault Nat
  | [], _ => .error .trap
  | c :: rest, len =>
    if c = term then .ok len
    else if (len + 1) % 2 ^ 32 = 0 then .error (.bug "integer overflow")
    else altTermLen term rest (len + 1)

def strAllocAltTerm (src : Bytes) (term : UInt8) : Except Fault Bytes := do
  let len ← altTermLen term src 0
  if len ≤ src.length then pure (src.take len) else throw .trap

/-! ## `str_netfd_alloc` -/

/-- Where the first of `n` bytes that is the terminator is, counted from `i`. -/
def findTerm (term : UInt8) (block : Bytes) (pos : Nat) : Nat → Nat → Except Fault (Option Nat)
  | 0, _ => .ok none
  | n + 1, i =>
    match block[pos + i]? with
    | none => .error .trap
    | some c => if c = term then .ok (some i) else findTerm term block pos n (i + 1)

/-- `p_readbuf`, `p_readpos - p_readbuf`, `left` and the session. -/
structure Reading (S : Type) where
  block : Bytes
  pos : Nat
  left : Nat
  sess : S

section
variable {S : Type} (io : NetReader S) (term : UInt8)

/-- The read of `n` bytes that were peeked at, to a pointer with `count(n)`. -/
def readPeeked (r : Reading S) (n : Nat) : Except Fault (Bytes × S) :=
  if r.pos + n ≤ r.block.length then
    let got := io.read r.sess n
    if got.retval < 0 ∨ got.retval.toNat ≠ n then .error (.die "vsf_sysutil_read_loop")
    else .ok (overwrite r.block r.pos (got.data.take n), got.sess)
  else .error .trap

/-- The terminator is byte `i` from where the reading stands. -/
def takeLine (r : Reading S) (i : Nat) : Except Fault (LineResult S) := do
  let (block, sess) ← readPeeked io r (i + 1)
  match block[r.pos + i]? with
  | none => .error .trap
  | some c =>
    if c ≠ term then .error (.die "missing terminator in str_netfd_alloc")
    else do
      let str ← strAllocAltTerm block term
      .ok ⟨i + 1, str, block, sess⟩

def strNetfdLoop : Nat → Reading S → Except Fault (LineResult S)
  | 0, _ => .error .fuel
  | fuel + 1, r =>
    if r.pos + r.left ≠ r.block.length then
      .error (.bug "poor buffer accounting in str_netfd_alloc")
    else if r.left = 0 then .ok ⟨-1, [], r.block, r.sess⟩
    else
      let peeked := io.peek r.sess r.left
      let block := overwrite r.block r.pos (peeked.data.take r.left)
      if peeked.retval < 0 then .error (.die "vsf_sysutil_recv_peek")
      else if peeked.retval = 0 then .ok ⟨0, [], block, peeked.sess⟩
      else do
        let r := { r with block := block, sess := peeked.sess }
        let bytesRead := peeked.retval.toNat
        match ← findTerm term block r.pos bytesRead 0 with
        | some i => takeLine io term r i
        | none =>
          if bytesRead > r.left then .error (.bug "bytes_read > left in str_netfd_alloc")
          else do
            let (block, sess) ← readPeeked io r bytesRead
            strNetfdLoop fuel ⟨block, r.pos + bytesRead, r.left - bytesRead, sess⟩

/-- Every turn but the last takes a byte at least. -/
def strNetfdAlloc (buf : ReadBuffer) (sess : S) : Except Fault (LineResult S) :=
  strNetfdLoop io term (buf.maxlen + 1) ⟨buf.block, 0, buf.maxlen, sess⟩

end

/-! ## A stream that arrives in pieces -/

/-- The bytes still to come, and for each coming peek how many it delivers at most,
less one. -/
structure Delivery where
  stream : Bytes
  pieces : Nat → Nat

/-- Peeks deliver some of the stream, and nothing only at its end; reads take what they
are asked for, as far as there is so much. -/
def deliveryReader : NetReader Delivery where
  peek := fun d len =>
    let n := min (min (d.pieces 0 + 1) intMax) (min len d.stream.length)
    ⟨n, d.stream.take n, ⟨d.stream, fun i => d.pieces (i + 1)⟩⟩
  read := fun d len =>
    let n := min len d.stream.length
    ⟨n, d.stream.take n, ⟨d.stream.drop n, d.pieces⟩⟩

/-! ## What a call leaves -/

/-- What a call makes of the stream `whole`, with room for `maxlen` bytes. -/
inductive LineOutcome (term : UInt8) (maxlen : Nat) (whole : Bytes) : LineResult Delivery → Prop
  | line {res : LineResult Delivery} (hret : 0 < res.retval)
      (hsplit : whole = res.str ++ term :: res.sess.stream) (hclear : term ∉ res.str)
      (hroom : res.str.length < maxlen) : LineOutcome term maxlen whole res
  | tooLong {res : LineResult Delivery} (hret : res.retval = -1) (hlong : maxlen ≤ whole.length)
      (hclear : term ∉ whole.take maxlen) : LineOutcome term maxlen whole res
  | ended {res : LineResult Delivery} (hret : res.retval = 0) (hshort : whole.length < maxlen)
      (hclear : term ∉ whole) : LineOutcome term maxlen whole res

section
variable {term : UInt8} {front back pre post stream : Bytes} {pieces : Nat → Nat} {left n : Nat}

theorem altTermLen_append (hpre : term ∉ pre) (len : Nat) (hlen : len + pre.length < 2 ^ 32) :
    altTermLen term (pre ++ term :: post) len = .ok (len + pre.length) := by
  induction pre generalizing len with
  | nil =>
      unfold altTermLen
      rw [List.nil_append]
      exact if_pos rfl
  | cons c pre ih =>
      obtain ⟨hc, hrest⟩ := not_or.mp (mt List.mem_cons.mpr hpre)
      rw [List.length_cons] at hlen ⊢
      rw [List.cons_append, altTermLen, if_neg (Ne.symm hc), if_neg (by omega),
        ih hrest (len + 1) (by omega)]
      congr 1
      omega

theorem strAllocAltTerm_append (hpre : term ∉ pre)
    (hsmall : (pre ++ term :: post).length < 2 ^ 32) :
    strAllocAltTerm (pre ++ term :: post) term = .ok pre := by
  have hlen : pre.length ≤ (pre ++ term :: post).length := by simp
  unfold strAllocAltTerm
  rw [altTermLen_append hpre 0 (by omega), ok_bind, Nat.zero_add, if_pos hlen, List.take_left]
  rfl

theorem findTerm_hit (pos i : Nat) (hpre : term ∉ pre) (hfront : front.length = pos + i)
    (hn : pre.length < n) :
    findTerm term (front ++ (pre ++ term :: post)) pos n i = .ok (some (i + pre.length)) := by
  induction pre generalizing front n i with
  | nil =>
      obtain ⟨n, rfl⟩ : ∃ k, n = k + 1 := ⟨n - 1, by rw [List.length_nil] at hn; omega⟩
      unfold findTerm
      rw [← hfront, List.nil_append, List.getElem?_append_right (Nat.le_refl _), Nat.sub_self]
      exact if_pos rfl
  | cons c pre ih =>
      obtain ⟨hc, hrest⟩ := not_or.mp (mt List.mem_cons.mpr hpre)
      rw [List.length_cons] at hn
      obtain ⟨n, rfl⟩ : ∃ k, n = k + 1 := ⟨n - 1, by omega⟩
      have hnext : findTerm term ((front ++ [c]) ++ (pre ++ term :: post)) pos n (i + 1) =
          .ok (some (i + 1 + pre.length)) :=
        ih (i + 1) hrest (by rw [List.length_append, List.length_singleton]; omega) (by omega)
      rw [List.append_assoc] at hnext
      unfold findTerm
      rw [← hfront, List.getElem?_append_right (Nat.le_refl _), Nat.sub_self]
      show (if c = term then _ else _) = _
      rw [if_neg (Ne.symm hc)]
      refine hnext.trans ?_
      rw [List.length_cons, Nat.add_assoc, Nat.add_comm 1]

theorem findTerm_miss (post : Bytes) (pos i : Nat) (hpre : term ∉ pre)
    (hfront : front.length = pos + i) :
    findTerm term (front ++ (pre ++ post)) pos pre.length i = .ok none := by
  induction pre generalizing front i with
  | nil => rfl
  | cons c pre ih =>
      obtain ⟨hc, hrest⟩ := not_or.mp (mt List.mem_cons.mpr hpre)
      have hnext : findTerm term ((front ++ [c]) ++ (pre ++ post)) pos pre.length (i + 1) =
          .ok none :=
        ih (i + 1) hrest (by rw [List.length_append, List.length_singleton]; omega)
      rw [List.append_assoc] at hnext
      rw [List.length_cons]
      unfold findTerm
      rw [← hfront, List.getElem?_append_right (Nat.le_refl _), Nat.sub_self]
      show (if c = term then _ else _) = _
      rw [if_neg (Ne.symm hc)]
      exact hnext

theorem readPeeked_delivery (hn : n ≤ stream.length) (hroom : n ≤ back.length) :
    readPeeked deliveryReader ⟨front ++ back, front.length, left, ⟨stream, pieces⟩⟩ n =
      .ok (front ++ (stream.take n ++ back.drop n), ⟨stream.drop n, pieces⟩) := by
  have hmin : min n stream.length = n := Nat.min_eq_left hn
  have htake : (stream.take n).take n = stream.take n := by rw [List.take_take, Nat.min_self]
  have hinside : front.length + n ≤ (front ++ back).length := by
    rw [List.length_append]
    omega
  unfold readPeeked
  rw [if_pos hinside]
  simp only [deliveryReader, hmin]
  rw [if_neg (by omega), htake, overwrite_append, List.length_take, hmin]

/-- A line whose terminator was peeked at. -/
theorem takeLine_delivery (back post : Bytes) (pieces : Nat → Nat) (left : Nat)
    (hclear : term ∉ front ++ pre) (hroom : pre.length < back.length)
    (hsmall : (front ++ back).length < 2 ^ 32) :
    ∃ block, takeLine deliveryReader term
        ⟨front ++ back, front.length, left, ⟨pre ++ term :: post, pieces⟩⟩ pre.length =
      .ok ⟨pre.length + 1, front ++ pre, block, ⟨post, pieces⟩⟩ := by
  have hlen : pre.length + 1 ≤ (pre ++ term :: post).length := by simp
  have htake : (pre ++ term :: post).take (pre.length + 1) = pre ++ [term] := by
    rw [List.take_append, List.take_of_length_le (Nat.le_succ _)]
    simp
  have hdrop : (pre ++ term :: post).drop (pre.length + 1) = post := by
    rw [List.drop_append]
    simp
  have hblock : front ++ ((pre ++ [term]) ++ back.drop (pre.length + 1)) =
      (front ++ pre) ++ term :: back.drop (pre.length + 1) := by
    simp
  have hsame : ((front ++ pre) ++ term :: back.drop (pre.length + 1)).length < 2 ^ 32 := by
    simp only [List.length_append, List.length_cons, List.length_drop] at hsmall ⊢
    omega
  refine ⟨(front ++ pre) ++ term :: back.drop (pre.length + 1), ?_⟩
  unfold takeLine
  rw [readPeeked_delivery hlen (by omega), ok_bind, htake, hdrop, hblock]
  dsimp only
  rw [List.getElem?_append_right (by simp), List.length_append, Nat.sub_self]
  dsimp only [List.getElem?_cons_zero]
  rw [if_neg (not_not_intro rfl), strAllocAltTerm_append hclear hsame]
  rfl

/-- What a peek delivers of a stream that has not ended. -/
theorem peek_delivery (pieces : Nat → Nat) (hstream : stream ≠ []) (hleft : left ≠ 0) :
    ∃ n, 0 < n ∧ n ≤ left ∧ n ≤ stream.length ∧
      deliveryReader.peek ⟨stream, pieces⟩ left =
        ⟨n, stream.take n, ⟨stream, fun i => pieces (i + 1)⟩⟩ := by
  have hpos : 0 < stream.length := List.length_pos_of_ne_nil hstream
  refine ⟨min (min (pieces 0 + 1) intMax) (min left stream.length), ?_, ?_, ?_, rfl⟩
  · unfold intMax
    omega
  · omega
  · omega

theorem strNetfdLoop_end (fuel : Nat) (hclear : term ∉ front) (hleft : back ≠ []) :
    ∃ res, strNetfdLoop deliveryReader term (fuel + 1)
        ⟨front ++ back, front.length, back.length, ⟨[], pieces⟩⟩ = .ok res ∧
      LineOutcome term (front ++ back).length (front ++ []) res := by
  have hpos : 0 < back.length := List.length_pos_of_ne_nil hleft
  have hlength : front.length + back.length = (front ++ back).length := List.length_append.symm
  have hnone : min (min (pieces 0 + 1) intMax) (min back.length 0) = 0 := by
    rw [Nat.min_zero, Nat.min_zero]
  refine ⟨⟨0, [], overwrite (front ++ back) front.length [], ⟨[], fun i => pieces (i + 1)⟩⟩, ?_,
    .ended rfl ?_ (by rwa [List.append_nil])⟩
  · unfold strNetfdLoop
    rw [if_neg (not_not_intro hlength), if_neg (by dsimp only; omega)]
    simp only [deliveryReader, List.length_nil, hnone, List.take_nil]
    rfl
  · rw [List.append_nil, List.length_append]
    omega

/-- One turn: the first `front` of the stream is in the buffer, without a terminator,
and `back` is the room behind it. -/
theorem strNetfdLoop_outcome (fuel : Nat) (front back stream : Bytes) (pieces : Nat → Nat)
    (hfuel : back.length < fuel) (hclear : term ∉ front)
    (hsmall : (front ++ back).length < 2 ^ 32) :
    ∃ res, strNetfdLoop deliveryReader term fuel
        ⟨front ++ back, front.length, back.length, ⟨stream, pieces⟩⟩ = .ok res ∧
      LineOutcome term (front ++ back).length (front ++ stream) res := by
  induction fuel generalizing front back stream pieces with
  | zero => exact absurd hfuel (Nat.not_lt_zero _)
  | succ fuel ih =>
      have hlength : front.length + back.length = (front ++ back).length :=
        List.length_append.symm
      by_cases hback : back = []
      · refine ⟨⟨-1, [], front ++ back, ⟨stream, pieces⟩⟩, ?_, .tooLong rfl ?_ ?_⟩
        · unfold strNetfdLoop
          rw [if_neg (not_not_intro hlength), if_pos (by rw [hback]; rfl)]
        · rw [hback, List.append_nil, List.length_append]
          omega
        · rw [hback, List.append_nil, List.take_left]
          exact hclear
      by_cases hstream : stream = []
      · rw [hstream]
        exact strNetfdLoop_end fuel hclear hback
      have hleft : back.length ≠ 0 := fun h => hback (List.length_eq_zero_iff.mp h)
      obtain ⟨n, hpos, hroom, hn, hpeek⟩ := peek_delivery pieces hstream hleft
      have htake : (stream.take n).length = n := by
        rw [List.length_take]
        omega
      have hfill : overwrite (front ++ back) front.length ((stream.take n).take back.length) =
          front ++ (stream.take n ++ back.drop n) := by
        rw [List.take_of_length_le (by omega), overwrite_append, htake]
      have hsame : (front ++ (stream.take n ++ back.drop n)).length = (front ++ back).length := by
        simp only [List.length_append, List.length_drop]
        omega
      unfold strNetfdLoop
      rw [if_neg (not_not_intro hlength), if_neg hleft]
      dsimp only
      rw [hpeek]
      dsimp only
      rw [if_neg (by omega), if_neg (by omega), hfill, Int.toNat_natCast]
      by_cases hterm : term ∈ stream.take n
      · obtain ⟨pre, post, hpre, hnot⟩ := List.eq_append_cons_of_mem hterm
        have hwhole : stream = pre ++ term :: (post ++ stream.drop n) := by
          conv_lhs => rw [← List.take_append_drop n stream, hpre, List.append_assoc]
          rfl
        have hlen : pre.length < n := by
          rw [← htake, hpre, List.length_append, List.length_cons]
          omega
        have hclear' : term ∉ front ++ pre := fun h => (List.mem_append.mp h).elim hclear hnot
        have hfound : findTerm term (front ++ (stream.take n ++ back.drop n)) front.length n 0 =
            .ok (some pre.length) := by
          rw [hpre, List.append_assoc, List.cons_append,
            findTerm_hit front.length 0 hnot rfl hlen, Nat.zero_add]
        obtain ⟨block, hline⟩ := takeLine_delivery (stream.take n ++ back.drop n)
          (post ++ stream.drop n) (fun i => pieces (i + 1)) back.length hclear'
          (by rw [List.length_append]; omega) (by rwa [hsame])
        rw [← hwhole] at hline
        refine ⟨⟨pre.length + 1, front ++ pre, block,
          ⟨post ++ stream.drop n, fun i => pieces (i + 1)⟩⟩, ?_, .line ?_ ?_ hclear' ?_⟩
        · rw [hfound, ok_bind]
          exact hline
        · dsimp only
          omega
        · dsimp only
          rw [List.append_assoc, ← hwhole]
        · dsimp only
          rw [List.length_append]
          omega
      · have hmissed : findTerm term (front ++ (stream.take n ++ back.drop n)) front.length n 0 =
            .ok none := by
          have hmiss := findTerm_miss (back.drop n) front.length 0 hterm rfl
          rwa [htake] at hmiss
        have hread : readPeeked deliveryReader
            ⟨front ++ (stream.take n ++ back.drop n), front.length, back.length,
              ⟨stream, fun i => pieces (i + 1)⟩⟩ n =
            .ok (front ++ (stream.take n ++ back.drop n),
              ⟨stream.drop n, fun i => pieces (i + 1)⟩) := by
          rw [readPeeked_delivery hn (by rw [List.length_append]; omega), List.drop_append, htake,
            Nat.sub_self, List.drop_zero, List.drop_of_length_le (by omega), List.nil_append]
        obtain ⟨res, hrun, hres⟩ := ih (front ++ stream.take n) (back.drop n) (stream.drop n)
          (fun i => pieces (i + 1)) (by rw [List.length_drop]; omega)
          (fun h => (List.mem_append.mp h).elim hclear hterm)
          (by rwa [List.append_assoc, hsame])
        rw [List.append_assoc, hsame, List.append_assoc, List.take_append_drop] at hres
        refine ⟨res, ?_, hres⟩
        rw [hmissed, ok_bind]
        dsimp only
        rw [if_neg (by omega), hread, ok_bind]
        rw [List.append_assoc, List.length_append, List.length_drop, htake] at hrun
        exact hrun

end

theorem mem_take_of_lt {term : UInt8} {pre post : Bytes} {n : Nat} (h : pre.length < n) :
    term ∈ (pre ++ term :: post).take n := by
  obtain ⟨k, hk⟩ : ∃ k, n - pre.length = k + 1 := ⟨n - pre.length - 1, by omega⟩
  rw [List.take_append, hk, List.take_succ_cons]
  simp

/-- A call never fails: what it returns tells what the stream begins with. -/
theorem strNetfdAlloc_outcome (term : UInt8) (buf : ReadBuffer) (d : Delivery) :
    ∃ res, strNetfdAlloc deliveryReader term buf d = .ok res ∧
      LineOutcome term buf.maxlen d.stream res :=
  strNetfdLoop_outcome (buf.maxlen + 1) [] buf.block d.stream d.pieces (Nat.lt_succ_self _)
    List.not_mem_nil buf.isUnsigned

theorem strNetfdAlloc_line (term : UInt8) (buf : ReadBuffer) (d : Delivery) :
    ∃ res, strNetfdAlloc deliveryReader term buf d = .ok res ∧
      (term ∈ d.stream.take buf.maxlen →
        0 < res.retval ∧ res.str = d.stream.takeWhile (· ≠ term) ∧
          d.stream = res.str ++ term :: res.sess.stream) ∧
      (res.retval = -1 ↔ buf.maxlen ≤ d.stream.length ∧ term ∉ d.stream.take buf.maxlen) ∧
      (res.retval = 0 ↔ d.stream.length < buf.maxlen ∧ term ∉ d.stream) := by
  obtain ⟨res, hrun, hres⟩ := strNetfdAlloc_outcome term buf d
  refine ⟨res, hrun, ?_⟩
  cases hres with
  | line hret hsplit hclear hroom =>
      have hmem : term ∈ d.stream := by
        rw [hsplit]
        simp
      have hearly : term ∈ d.stream.take buf.maxlen := by
        rw [hsplit]
        exact mem_take_of_lt hroom
      have hbefore : res.str = d.stream.takeWhile (· ≠ term) := by
        have hother : ∀ c ∈ res.str, decide (c ≠ term) = true := by
          intro c hc
          refine decide_eq_true fun heq => hclear ?_
          rwa [← heq]
        conv_rhs => rw [hsplit, List.takeWhile_append_of_pos hother]
        simp
      refine ⟨fun _ => ⟨hret, hbefore, hsplit⟩, ?_, ?_⟩
      · exact iff_of_false (by omega) fun h => h.2 hearly
      · exact iff_of_false (by omega) fun h => h.2 hmem
  | tooLong hret hlong hclear =>
      refine ⟨fun h => absurd h hclear, iff_of_true hret ⟨hlong, hclear⟩, ?_⟩
      exact iff_of_false (by omega) fun h => by omega
  | ended hret hshort hclear =>
      refine ⟨fun h => absurd (List.mem_of_mem_take h) hclear, ?_,
        iff_of_true hret ⟨hshort, hclear⟩⟩
      exact iff_of_false (by omega) fun h => by omega

end Vsftpd.NetStr
