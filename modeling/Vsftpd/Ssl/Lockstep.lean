import Vsftpd.Ssl.Slave

/-!
# The session and the slave in step

Each thing that the session asks for is one exchange of messages, and comes to what the
process that has the SSL objects itself would have.
-/

namespace Vsftpd.Ssl

open Vsftpd.Lib Vsftpd.Lib.TextBlock Vsftpd.Lib.Duplex Vsftpd.NetStr Vsftpd.Session

/-! ## Lines -/

section
variable {S : Type} {io : NetReader S} {term : UInt8} {r : Reading S} {res : LineResult S}

theorem strAllocAltTerm_length {src text : Bytes} (h : strAllocAltTerm src term = .ok text) :
    text.length ≤ src.length := by
  obtain ⟨len, -, htake⟩ := bind_eq_ok h
  split_ifs at htake with hlen
  cases htake
  rw [List.length_take]
  exact Nat.min_le_right _ _

theorem readPeeked_length {n : Nat} {block : Bytes} {sess : S}
    (h : readPeeked io r n = .ok (block, sess)) : block.length = r.block.length := by
  unfold readPeeked at h
  dsimp only at h
  split_ifs at h with hin
  cases h
  apply length_overwrite
  rw [List.length_take]
  omega

theorem takeLine_length {i : Nat} (h : takeLine io term r i = .ok res) :
    res.str.length ≤ r.block.length := by
  obtain ⟨⟨block, sess⟩, hread, hrest⟩ := bind_eq_ok h
  dsimp only at hrest
  split at hrest
  · cases hrest
  · split_ifs at hrest
    obtain ⟨text, htext, hres⟩ := bind_eq_ok hrest
    cases hres
    exact (strAllocAltTerm_length htext).trans_eq (readPeeked_length hread)

/-- A line is not longer than the buffer. -/
theorem strNetfdLoop_length {fuel : Nat} (h : strNetfdLoop io term fuel r = .ok res) :
    res.str.length ≤ r.block.length := by
  induction fuel generalizing r with
  | zero => cases h
  | succ fuel ih =>
      unfold strNetfdLoop at h
      split_ifs at h with hroom hleft
      · cases h
        exact Nat.zero_le _
      dsimp only at h
      have hfill : (overwrite r.block r.pos ((io.peek r.sess r.left).data.take r.left)).length =
          r.block.length := by
        apply length_overwrite
        rw [List.length_take]
        omega
      by_cases herror : (io.peek r.sess r.left).retval < 0
      · rw [if_pos herror] at h
        cases h
      rw [if_neg herror] at h
      by_cases hend : (io.peek r.sess r.left).retval = 0
      · rw [if_pos hend] at h
        cases h
        exact Nat.zero_le _
      rw [if_neg hend] at h
      obtain ⟨found, -, hrest⟩ := bind_eq_ok h
      cases found with
      | some i => exact (takeLine_length hrest).trans_eq hfill
      | none =>
          dsimp only at hrest
          split_ifs at hrest
          obtain ⟨⟨block, sess⟩, hread, hloop⟩ := bind_eq_ok hrest
          exact (ih hloop).trans_eq ((readPeeked_length hread).trans hfill)

end

section
variable {σ : Type} {lib : SslLib σ} {cfg : SslConfig}

theorem ftpGetline_length {e e' : SslSide σ} {ret : Int} {text : Bytes}
    (h : ftpGetline lib cfg e = .ok (ret, text, e')) : text.length ≤ vsftpMaxCommandLine := by
  unfold ftpGetline at h
  split at h
  · cases h
  · rename_i res hrun
    cases h
    have hlen := strNetfdLoop_length hrun
    unfold strNetfdLoop at hrun
    by_cases hbuf : 0 + vsftpMaxCommandLine = e.controlLineBuf.length
    · rw [← hbuf, Nat.zero_add] at hlen
      exact hlen
    · rw [if_pos hbuf] at hrun
      cases hrun

theorem ftpGetline_dataSsl {e e' : SslSide σ} {ret : Int} {text : Bytes}
    (h : ftpGetline lib cfg e = .ok (ret, text, e')) : e'.dataSsl = e.dataSsl := by
  unfold ftpGetline at h
  split at h
  · cases h
  · cases h
    rfl

end

/-! ## Messages -/

section
variable {R : Type} (inbox : List Msg)

theorem exec_pure (res : R) : (pure res : Talk R).exec inbox = ⟨[], .next res, inbox⟩ := rfl

theorem exec_sendCmd (c : UInt8) (f : Unit → Talk R) :
    (sendCmd c >>= f).exec inbox = ((f ()).exec inbox).after [.cmd c] := rfl

theorem exec_sendInt (n : Int) (f : Unit → Talk R) :
    (sendInt n >>= f).exec inbox = ((f ()).exec inbox).after [.int n] := rfl

theorem exec_sendFd (fd : Nat) (f : Unit → Talk R) :
    (sendFd fd >>= f).exec inbox = ((f ()).exec inbox).after [.fd fd] := rfl

theorem exec_getCmd (c : UInt8) (f : UInt8 → Talk R) :
    (getCmd >>= f).exec (.cmd c :: inbox) = (f c).exec inbox := rfl

theorem exec_getInt (n : Int) (f : Int → Talk R) :
    (getInt >>= f).exec (.int n :: inbox) = (f n).exec inbox := rfl

theorem exec_wait_int (f : Int → Talk R) :
    (getInt >>= f).exec [] = ⟨[], getInt >>= f, []⟩ := rfl

theorem exec_wait_result (f : UInt8 → Talk R) :
    (getResult >>= f).exec [] = ⟨[], getResult >>= f, []⟩ := rfl

theorem exec_recvFd (fd : Nat) (f : Nat → Talk R) :
    (recvFd >>= f).exec (.fd fd :: inbox) = (f fd).exec inbox := rfl

/-- The messages of a text. -/
def strMsgs (text : Bytes) : List Msg :=
  .int text.length :: if text.length > 0 then [.bytes text] else []

theorem exec_sendStr (text : Bytes) (f : Unit → Talk R) :
    (sendStr text >>= f).exec inbox = ((f ()).exec inbox).after (strMsgs text) := by
  unfold sendStr strMsgs
  rw [bind_assoc, exec_sendInt]
  split_ifs
  · rfl
  · rfl

theorem exec_readBytes (text : Bytes) (failure : String) (f : Bytes → Talk R) :
    (readBytes text.length failure >>= f).exec (.bytes text :: inbox) = (f text).exec inbox := by
  show (Code.bind (if text.length = text.length then .next text else .halt .mismatch) f).exec inbox
    = _
  rw [if_pos rfl]
  rfl

theorem unsignedInt_length {text : Bytes} (h : text.length < 2 ^ 32) :
    unsignedInt text.length = text.length := by
  unfold unsignedInt
  omega

theorem exec_getStr {text : Bytes} (h : text.length ≤ vsftpPrivsockMaxstr) (f : Bytes → Talk R) :
    (getStr >>= f).exec (strMsgs text ++ inbox) = (f text).exec inbox := by
  have hlen : unsignedInt text.length = text.length := by
    apply unsignedInt_length
    exact Nat.lt_of_le_of_lt h (by decide)
  unfold getStr strMsgs
  rw [bind_assoc, List.cons_append, exec_getInt, hlen, if_neg (Nat.not_lt.mpr h)]
  by_cases hpos : text.length > 0
  · rw [if_pos hpos, if_pos hpos]
    exact exec_readBytes inbox text _ f
  · rw [if_neg hpos, if_neg hpos, List.length_eq_zero_iff.mp (Nat.eq_zero_of_not_pos hpos)]
    rfl

theorem exec_recvBuf {text : Bytes} {len : Nat} (h : text.length ≤ len)
    (hlen : len ≤ vsftpDataBufsize) (f : Bytes → Talk R) :
    (recvBuf len >>= f).exec (strMsgs text ++ inbox) = (f text).exec inbox := by
  have htext : unsignedInt text.length = text.length := by
    apply unsignedInt_length
    exact Nat.lt_of_le_of_lt (h.trans hlen) (by decide)
  unfold recvBuf strMsgs
  rw [bind_assoc, List.cons_append, exec_getInt, htext, if_neg (Nat.not_lt.mpr h)]
  by_cases hpos : text.length > 0
  · rw [if_pos hpos, if_pos hpos]
    exact exec_readBytes inbox text _ f
  · rw [if_neg hpos, if_neg hpos, List.length_eq_zero_iff.mp (Nat.eq_zero_of_not_pos hpos)]
    rfl

end

/-! ## Exchanges -/

/-- The same for the session: of a line that was not read it takes no notice. -/
def Out.Agrees (direct slave : Out) : Prop :=
  match direct, slave with
  | .line ret text, .line ret' text' => ret = ret' ∧ (0 ≤ ret → text = text')
  | out, out' => out = out'

section
variable {σ : Type} {lib : SslLib σ} {cfg : SslConfig}

/-- The slave has what the one process would have. -/
structure Slave.Mirrors (t : Slave σ) (d : Direct σ) : Prop where
  side : t.side = d.side
  fd : t.dataFd.isSome = t.side.dataSsl
  alloc : vsftpDataBufsize < t.dataAlloc

/-- What the session sends for an operation, and what it makes of the answers. -/
def Asks (op : Op) (sent answers : List Msg) (out : Bytes → Out) : Prop :=
  ∀ rest str outs, ∃ ask text, (consumerTurn ⟨op :: rest, str, outs⟩).exec [] = ⟨sent, ask, []⟩ ∧
    ask.exec answers = ⟨[], .next ⟨rest, text, outs ++ [out str]⟩, []⟩

/-- What the slave sends, and what becomes of it. -/
def Answers (lib : SslLib σ) (cfg : SslConfig) (t : Slave σ) (sent answers : List Msg)
    (t' : Slave σ) : Prop :=
  (slaveTurn lib cfg t).exec sent = ⟨answers, .next t', []⟩

/-! ### The session -/

theorem asks_writeControl (text : Bytes) (ret : Int) :
    Asks (.writeControl text) (.cmd privSockWriteUserResp :: strMsgs text) [.int ret]
      fun _ => .written ret := by
  intro rest str outs
  refine ⟨getInt >>= fun ret => pure ⟨rest, str, outs ++ [.written ret]⟩, str, ?_, rfl⟩
  unfold consumerTurn consumerOp
  simp only [bind_assoc, pure_bind, exec_sendCmd, exec_sendStr, exec_wait_int,
    Code.Progress.after, List.append_nil, List.singleton_append]

theorem asks_writeStr (text : Bytes) (ret : Int) :
    Asks (.writeStr text) (.cmd privSockDoSslWrite :: strMsgs text) [.int ret]
      fun _ => .written (if ret > 0 ∧ ret = text.length then 0 else -1) := by
  intro rest str outs
  refine ⟨getInt >>= fun written => pure ⟨rest, str, outs ++
    [.written (if written > 0 ∧ written = text.length then 0 else -1)]⟩, str, ?_, rfl⟩
  unfold consumerTurn consumerOp
  simp only [bind_assoc, pure_bind, exec_sendCmd, exec_sendStr, exec_wait_int,
    Code.Progress.after, List.append_nil, List.singleton_append]

theorem asks_writeData (buf : Bytes) (ret : Int) :
    Asks (.writeData buf) (.cmd privSockDoSslWrite :: strMsgs buf) [.int ret]
      fun _ => .written ret := by
  intro rest str outs
  refine ⟨getInt >>= fun ret => pure ⟨rest, str, outs ++ [.written ret]⟩, str, ?_, rfl⟩
  unfold consumerTurn consumerOp
  simp only [bind_assoc, pure_bind, exec_sendCmd, exec_sendStr, exec_wait_int,
    Code.Progress.after, List.append_nil, List.singleton_append]

theorem asks_readData {len : Nat} {buf : Bytes} (ret : Int) (hbuf : buf.length ≤ len)
    (hlen : len ≤ vsftpDataBufsize) :
    Asks (.readData len) [.cmd privSockDoSslRead, .int len] (.int ret :: strMsgs buf)
      fun _ => .read ret buf := by
  intro rest str outs
  refine ⟨getInt >>= fun ret => recvBuf len >>= fun buf =>
    pure ⟨rest, str, outs ++ [.read ret buf]⟩, str, ?_, ?_⟩
  · unfold consumerTurn consumerOp
    simp only [bind_assoc, pure_bind, exec_sendCmd, exec_sendInt, exec_wait_int,
      Code.Progress.after, List.append_nil, List.singleton_append]
  · rw [exec_getInt, ← List.append_nil (strMsgs buf), exec_recvBuf [] hbuf hlen]
    rfl

theorem exec_ask_handshake (fd : Nat) (rest : List Op) (str : Bytes) (outs : List Out) :
    (consumerTurn ⟨.handshake fd :: rest, str, outs⟩).exec [] =
      ⟨[.cmd privSockDoSslHandshake, .fd fd], getResult >>= fun res =>
        pure ⟨rest, str, outs ++ [.connected (res = privSockResultOk)]⟩, []⟩ := by
  unfold consumerTurn consumerOp
  simp only [bind_assoc, pure_bind, exec_sendCmd, exec_sendFd, exec_wait_result,
    Code.Progress.after, List.append_nil, List.singleton_append]

theorem asks_handshake (fd : Nat) (res : UInt8) :
    Asks (.handshake fd) [.cmd privSockDoSslHandshake, .fd fd] [.result res]
      fun _ => .connected (res = privSockResultOk) :=
  fun rest str outs => ⟨_, str, exec_ask_handshake fd rest str outs, rfl⟩

theorem asks_close (res : UInt8) :
    Asks .close [.cmd privSockDoSslClose] [.result res]
      fun _ => .disposed (res = privSockResultOk) := by
  intro rest str outs
  refine ⟨getResult >>= fun res => pure ⟨rest, str, outs ++ [.disposed (res = privSockResultOk)]⟩,
    str, ?_, rfl⟩
  unfold consumerTurn consumerOp
  simp only [bind_assoc, pure_bind, exec_sendCmd, exec_wait_result, Code.Progress.after,
    List.append_nil]

/-- What becomes of a line, or of none. -/
def lineTurn (rest : List Op) (str : Bytes) (outs : List Out) (ret : Int) : Talk Consumer :=
  if ret ≥ 0 then do
    let text ← getStr
    pure ⟨rest, text, outs ++ [.line ret text]⟩
  else pure ⟨rest, str, outs ++ [.line ret str]⟩

theorem consumerTurn_getline (rest : List Op) (str : Bytes) (outs : List Out) :
    consumerTurn ⟨.getline :: rest, str, outs⟩ =
      sendCmd privSockGetUserCmd >>= fun _ => getInt >>= lineTurn rest str outs := by
  unfold consumerTurn consumerOp
  simp only [bind_assoc]
  congr 1
  funext _
  congr 1
  funext ret
  unfold lineTurn
  split_ifs
  · simp only [bind_assoc, pure_bind]
  · simp only [pure_bind]

theorem exec_ask_getline (rest : List Op) (str : Bytes) (outs : List Out) :
    (consumerTurn ⟨.getline :: rest, str, outs⟩).exec [] =
      ⟨[.cmd privSockGetUserCmd], getInt >>= lineTurn rest str outs, []⟩ := by
  rw [consumerTurn_getline, exec_sendCmd, exec_wait_int]
  rfl

theorem asks_line {ret : Int} {text : Bytes} (hret : 0 ≤ ret)
    (htext : text.length ≤ vsftpPrivsockMaxstr) :
    Asks .getline [.cmd privSockGetUserCmd] (.int ret :: strMsgs text) fun _ => .line ret text := by
  intro rest str outs
  refine ⟨getInt >>= lineTurn rest str outs, text, exec_ask_getline rest str outs, ?_⟩
  rw [exec_getInt, lineTurn, if_pos hret, ← List.append_nil (strMsgs text), exec_getStr [] htext]
  rfl

theorem asks_no_line {ret : Int} (hret : ret < 0) :
    Asks .getline [.cmd privSockGetUserCmd] [.int ret] fun str => .line ret str := by
  intro rest str outs
  refine ⟨getInt >>= lineTurn rest str outs, str, exec_ask_getline rest str outs, ?_⟩
  rw [exec_getInt, lineTurn, if_neg (Int.not_le.mpr hret)]
  rfl

/-! ### The slave -/

section
variable {t : Slave σ} {text : Bytes}

theorem answers_line {side : SslSide σ} {ret : Int}
    (h : ftpGetline lib cfg t.side = .ok (ret, text, side)) :
    Answers lib cfg t [.cmd privSockGetUserCmd]
      (.int ret :: if ret ≥ 0 then strMsgs text else [])
      { t with side := side, ftpCmdStr := text } := by
  unfold Answers slaveTurn
  rw [exec_getCmd, if_pos rfl]
  unfold slaveGetline
  rw [h]
  dsimp only
  rw [exec_sendInt]
  split_ifs
  · rw [exec_sendStr, exec_pure]
    simp only [Code.Progress.after, List.append_nil, List.singleton_append]
  · rfl

theorem answers_line_fault {e : Halt} (h : ftpGetline lib cfg t.side = .error e) :
    (slaveTurn lib cfg t).exec [.cmd privSockGetUserCmd] = ⟨[], .halt e, []⟩ := by
  unfold slaveTurn
  rw [exec_getCmd, if_pos rfl]
  unfold slaveGetline
  rw [h]
  rfl

theorem answers_writeResp (htext : text.length ≤ vsftpPrivsockMaxstr) :
    Answers lib cfg t (.cmd privSockWriteUserResp :: strMsgs text)
      [.int (sslWriteStr lib .control text t.side.lib).1]
      { t with
        side := { t.side with lib := (sslWriteStr lib .control text t.side.lib).2 }
        ftpCmdStr := text } := by
  unfold Answers slaveTurn
  rw [exec_getCmd, if_neg (by decide), if_pos rfl]
  unfold slaveWriteResp
  rw [← List.append_nil (strMsgs text), exec_getStr [] htext]
  rfl

theorem answers_write (hdata : t.lacksData = false) (htext : text.length ≤ vsftpPrivsockMaxstr) :
    Answers lib cfg t (.cmd privSockDoSslWrite :: strMsgs text)
      [.int (lib.sslWrite .data text t.side.lib).1]
      { t with
        side := { t.side with lib := (lib.sslWrite .data text t.side.lib).2 }
        dataStr := text
        dataAlloc := max t.dataAlloc (text.length + 1) } := by
  unfold Answers slaveTurn
  rw [exec_getCmd, if_neg (by decide), if_neg (by decide), if_neg (by decide),
    if_neg (by decide), if_pos rfl]
  unfold slaveWrite
  rw [hdata, if_neg Bool.false_ne_true, ← List.append_nil (strMsgs text), exec_getStr [] htext]
  rfl

/-- Nothing is read by a call that fails. -/
theorem sslRead_data (conn : Conn) (len : Nat) (l : σ) :
    (if (sslRead lib cfg conn len l).retval ≥ 0 then (sslRead lib cfg conn len l).data else []) =
      (sslRead lib cfg conn len l).data := by
  by_cases hret : (sslRead lib cfg conn len l).retval ≥ 0
  · rw [if_pos hret]
  · rw [if_neg hret]
    unfold sslRead sslReadCommon at hret ⊢
    dsimp only at hret ⊢
    symm
    apply List.eq_nil_of_length_eq_zero
    rw [(lib.sslRead conn len l).length_data]
    split_ifs at hret with hend
    · rw [hend.1]
      rfl
    all_goals omega

theorem answers_read {len : Nat} (hdata : t.lacksData = false)
    (halloc : vsftpDataBufsize < t.dataAlloc) (hpos : 0 < len) (hlen : len ≤ vsftpDataBufsize) :
    Answers lib cfg t [.cmd privSockDoSslRead, .int len]
      (.int (sslRead lib cfg .data len t.side.lib).retval ::
        strMsgs (sslRead lib cfg .data len t.side.lib).data)
      { t with
        side := { t.side with lib := (sslRead lib cfg .data len t.side.lib).sess }
        dataStr := (sslRead lib cfg .data len t.side.lib).data } := by
  have hsize : unsignedInt len = len := by
    unfold unsignedInt
    unfold vsftpDataBufsize at hlen
    omega
  unfold Answers slaveTurn
  rw [exec_getCmd, if_neg (by decide), if_neg (by decide), if_neg (by decide), if_pos rfl]
  unfold slaveRead
  rw [exec_getInt, if_neg (by omega), hdata, if_neg Bool.false_ne_true, hsize, if_neg (by omega)]
  dsimp only
  rw [sslRead_data, exec_sendInt, exec_sendStr, exec_pure]
  simp only [Code.Progress.after, List.append_nil, List.singleton_append]

/-- Nothing is left of a connection that was refused. -/
theorem answers_handshake {fd : Nat} {ok : Bool} {side : SslSide σ} (hfd : t.dataFd = none)
    (hdata : t.side.dataSsl = false) (h : sslAccept lib cfg fd t.side = .ok (ok, side)) :
    Answers lib cfg t [.cmd privSockDoSslHandshake, .fd fd]
      [.result (if ok then privSockResultOk else privSockResultBad)]
      { t with side := side, dataFd := if ok then some fd else none } := by
  have hclean : ¬ (t.dataFd ≠ none ∨ t.side.dataSsl = true) := by
    rw [hfd, hdata]
    decide
  unfold Answers slaveTurn
  rw [exec_getCmd, if_neg (by decide), if_neg (by decide), if_pos rfl]
  unfold slaveHandshake
  rw [if_neg hclean, exec_recvFd, h]
  cases ok with
  | true => rfl
  | false => rfl

theorem answers_handshake_fault {fd : Nat} {e : Halt} (hfd : t.dataFd = none)
    (hdata : t.side.dataSsl = false) (h : sslAccept lib cfg fd t.side = .error e) :
    (slaveTurn lib cfg t).exec [.cmd privSockDoSslHandshake, .fd fd] = ⟨[], .halt e, []⟩ := by
  have hclean : ¬ (t.dataFd ≠ none ∨ t.side.dataSsl = true) := by
    rw [hfd, hdata]
    decide
  unfold slaveTurn
  rw [exec_getCmd, if_neg (by decide), if_neg (by decide), if_pos rfl]
  unfold slaveHandshake
  rw [if_neg hclean, exec_recvFd, h]
  rfl

theorem answers_close_none (hfd : t.dataFd = none) (hdata : t.side.dataSsl = false) :
    Answers lib cfg t [.cmd privSockDoSslClose] [.result privSockResultOk] t := by
  unfold Answers slaveTurn
  rw [exec_getCmd, if_neg (by decide), if_neg (by decide), if_neg (by decide),
    if_neg (by decide), if_neg (by decide), if_pos rfl]
  unfold slaveClose
  rw [if_pos ⟨hfd, hdata⟩]
  rfl

theorem answers_close (hdata : t.lacksData = false) (hssl : t.side.dataSsl = true) :
    Answers lib cfg t [.cmd privSockDoSslClose]
      [.result (if (sslDataClose lib cfg t.side).1 then privSockResultOk else privSockResultBad)]
      { t with side := (sslDataClose lib cfg t.side).2, dataFd := none } := by
  unfold Answers slaveTurn
  rw [exec_getCmd, if_neg (by decide), if_neg (by decide), if_neg (by decide),
    if_neg (by decide), if_neg (by decide), if_pos rfl]
  unfold slaveClose
  rw [hssl, if_neg (by simp), hdata, if_neg Bool.false_ne_true]
  rfl

end

end

end Vsftpd.Ssl
