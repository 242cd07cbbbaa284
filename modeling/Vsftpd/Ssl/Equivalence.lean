import Mathlib.Data.List.Forall2
import Vsftpd.Ssl.Lockstep

/-!
# With the slave and without it

However the session and the slave take their steps, no message is misread, and the session
has the results that it would have had with the SSL objects in its own process.
-/

namespace Vsftpd.Ssl

open Vsftpd.Lib Vsftpd.Lib.TextBlock Vsftpd.Lib.Duplex Vsftpd.NetStr Vsftpd.Session

section
variable {σ : Type} {lib : SslLib σ} {cfg : SslConfig} {op : Op} {ops : List Op} {t : Slave σ}
  {d d' : Direct σ} {out : Out}

theorem Slave.Mirrors.lacksData (ht : t.Mirrors d) : t.lacksData = !d.side.dataSsl := by
  unfold Slave.lacksData
  rw [← ht.side, ← ht.fd]
  cases t.dataFd with
  | none => rfl
  | some fd => rfl

theorem Slave.Mirrors.lacksData_eq_false (ht : t.Mirrors d) (hssl : d.side.dataSsl = true) :
    t.lacksData = false := by
  rw [ht.lacksData, hssl]
  rfl

theorem Slave.Mirrors.dataFd_eq_none (ht : t.Mirrors d) (hssl : d.side.dataSsl = false) :
    t.dataFd = none := by
  have hfd := ht.fd
  rw [ht.side, hssl] at hfd
  exact Option.not_isSome_iff_eq_none.mp (by rw [hfd]; exact Bool.false_ne_true)

theorem Out.Agrees.refl (out : Out) : out.Agrees out := by
  cases out with
  | line ret text => exact ⟨rfl, fun _ => rfl⟩
  | written ret => rfl
  | read ret buf => rfl
  | connected ok => rfl
  | disposed ok => rfl

/-! ## One operation -/

/-- The session and the slave come to `out`, or to what agrees with it, and to `d'`. -/
def Exchanges (lib : SslLib σ) (cfg : SslConfig) (op : Op) (t : Slave σ) (out : Out)
    (d' : Direct σ) : Prop :=
  ∃ sent answers made t', Asks op sent answers made ∧ Answers lib cfg t sent answers t' ∧
    (∀ str, out.Agrees (made str)) ∧ t'.Mirrors d'

theorem exchanges_getline {side : SslSide σ} {ret : Int} {text : Bytes} (ht : t.Mirrors d)
    (h : ftpGetline lib cfg d.side = .ok (ret, text, side)) :
    Exchanges lib cfg .getline t (.line ret text) ⟨side, text⟩ := by
  have htext : text.length ≤ vsftpPrivsockMaxstr := (ftpGetline_length h).trans (by decide)
  have hdata : side.dataSsl = d.side.dataSsl := ftpGetline_dataSsl h
  rw [← ht.side] at h hdata
  have hmirrors : Slave.Mirrors { t with side := side, ftpCmdStr := text } ⟨side, text⟩ :=
    ⟨rfl, ht.fd.trans hdata.symm, ht.alloc⟩
  have hanswer := answers_line h
  by_cases hret : 0 ≤ ret
  · rw [if_pos hret] at hanswer
    exact ⟨_, _, _, _, asks_line hret htext, hanswer, fun _ => .refl _, hmirrors⟩
  · rw [if_neg hret] at hanswer
    exact ⟨_, _, _, _, asks_no_line (Int.not_le.mp hret), hanswer,
      fun _ => ⟨rfl, fun h => absurd h hret⟩, hmirrors⟩

theorem exchanges_writeControl {text : Bytes} (ht : t.Mirrors d)
    (htext : text.length ≤ vsftpPrivsockMaxstr) :
    Exchanges lib cfg (.writeControl text) t
      (.written (sslWriteStr lib .control text d.side.lib).1)
      { d with side := { d.side with lib := (sslWriteStr lib .control text d.side.lib).2 } } := by
  rw [← ht.side]
  exact ⟨_, _, _, _, asks_writeControl text _, answers_writeResp htext, fun _ => .refl _,
    rfl, ht.fd, ht.alloc⟩

/-- Both ask whether all of it was written. -/
theorem sslWriteStr_eq {text : Bytes} (conn : Conn) (l : σ) (hne : text ≠ [])
    (hlen : text.length ≤ vsftpPrivsockMaxstr) :
    (sslWriteStr lib conn text l).1 = if (lib.sslWrite conn text l).1 > 0 ∧
      (lib.sslWrite conn text l).1 = text.length then 0 else -1 := by
  have hint := lib.isInt conn text l
  have hpos : 0 < text.length := List.length_pos_of_ne_nil hne
  have hmax : text.length ≤ 131072 := hlen
  unfold sslWriteStr
  cases hwrite : lib.sslWrite conn text l with
  | mk ret l' =>
      rw [hwrite] at hint
      dsimp only at hint ⊢
      by_cases hall : ret = text.length
      · rw [if_neg (by omega), if_pos (by omega)]
      · rw [if_pos (by omega), if_neg (by omega)]

theorem exchanges_writeStr {text : Bytes} (ht : t.Mirrors d) (hssl : d.side.dataSsl = true)
    (hne : text ≠ []) (htext : text.length ≤ vsftpPrivsockMaxstr) :
    Exchanges lib cfg (.writeStr text) t (.written (sslWriteStr lib .data text d.side.lib).1)
      { d with side := { d.side with lib := (sslWriteStr lib .data text d.side.lib).2 } } := by
  have hdata := ht.lacksData_eq_false hssl
  rw [sslWriteStr_eq .data d.side.lib hne htext, ← ht.side]
  exact ⟨_, _, _, _, asks_writeStr text _, answers_write hdata htext, fun _ => .refl _,
    rfl, ht.fd, ht.alloc.trans_le (Nat.le_max_left _ _)⟩

theorem exchanges_writeData {buf : Bytes} (ht : t.Mirrors d) (hssl : d.side.dataSsl = true)
    (hbuf : buf.length ≤ vsftpPrivsockMaxstr) :
    Exchanges lib cfg (.writeData buf) t (.written (lib.sslWrite .data buf d.side.lib).1)
      { d with side := { d.side with lib := (lib.sslWrite .data buf d.side.lib).2 } } := by
  have hdata := ht.lacksData_eq_false hssl
  rw [← ht.side]
  exact ⟨_, _, _, _, asks_writeData buf _, answers_write hdata hbuf, fun _ => .refl _,
    rfl, ht.fd, ht.alloc.trans_le (Nat.le_max_left _ _)⟩

theorem exchanges_readData {len : Nat} (ht : t.Mirrors d) (hssl : d.side.dataSsl = true)
    (hpos : 0 < len) (hlen : len ≤ vsftpDataBufsize) :
    Exchanges lib cfg (.readData len) t
      (.read (sslRead lib cfg .data len d.side.lib).retval
        (sslRead lib cfg .data len d.side.lib).data)
      { d with side := { d.side with lib := (sslRead lib cfg .data len d.side.lib).sess } } := by
  have hdata := ht.lacksData_eq_false hssl
  rw [← ht.side]
  exact ⟨_, _, _, _, asks_readData _ (lib.sslRead .data len t.side.lib).length_le hlen,
    answers_read hdata ht.alloc hpos hlen, fun _ => .refl _, rfl, ht.fd, ht.alloc⟩

theorem sslDataClose_dataSsl (lib : SslLib σ) (cfg : SslConfig) (e : SslSide σ) :
    (sslDataClose lib cfg e).2.dataSsl = false := by
  unfold sslDataClose
  by_cases hssl : e.dataSsl = true
  · rw [if_pos hssl]
    dsimp only
    split_ifs
    · rfl
    · rfl
  · rw [if_neg hssl]
    exact Bool.eq_false_iff.mpr hssl

theorem sslAccept_dataSsl {e e' : SslSide σ} {fd : Nat} {ok : Bool}
    (h : sslAccept lib cfg fd e = .ok (ok, e')) : e'.dataSsl = ok := by
  unfold sslAccept at h
  dsimp only at h
  split_ifs at h with hssl hmade
  · cases h
    exact Bool.eq_false_iff.mpr hssl
  · cases hok : dataConnectionOk lib cfg (lib.getSsl fd e.lib).2 with
    | error h' =>
        rw [hok] at h
        cases h
    | ok good =>
        rw [hok] at h
        cases good with
        | true =>
            cases h
            rfl
        | false =>
            cases h
            exact sslDataClose_dataSsl lib cfg _

theorem dataConnectionOk_error {l : σ} {e : Halt} (h : dataConnectionOk lib cfg l = .error e) :
    e = .die "X509_digest failed" := by
  unfold dataConnectionOk at h
  split_ifs at h
  cases hdigest : lib.sslCertDigest l with
  | missing =>
      rw [hdigest] at h
      cases h
  | failed =>
      rw [hdigest] at h
      cases h
      rfl
  | made digest =>
      rw [hdigest] at h
      cases h

/-- A handshake ends the process only for the digest of a certificate. -/
theorem sslAccept_error {side : SslSide σ} {fd : Nat} {e : Halt} (hssl : side.dataSsl = false)
    (h : sslAccept lib cfg fd side = .error e) : e = .die "X509_digest failed" := by
  unfold sslAccept at h
  rw [hssl, if_neg Bool.false_ne_true] at h
  dsimp only at h
  split_ifs at h with hmade
  cases hok : dataConnectionOk lib cfg (lib.getSsl fd side.lib).2 with
  | error h' =>
      rw [hok] at h
      cases h
      exact dataConnectionOk_error hok
  | ok good =>
      rw [hok] at h
      cases good with
      | true => cases h
      | false => cases h

theorem ftpGetline_error {side : SslSide σ} {e : Halt} (h : ftpGetline lib cfg side = .error e) :
    ∃ fault, e = .line fault := by
  unfold ftpGetline at h
  split at h
  · rename_i fault _
    cases h
    exact ⟨fault, rfl⟩
  · cases h

theorem exchanges_handshake {fd : Nat} {ok : Bool} {side : SslSide σ} (ht : t.Mirrors d)
    (hssl : d.side.dataSsl = false) (h : sslAccept lib cfg fd d.side = .ok (ok, side)) :
    Exchanges lib cfg (.handshake fd) t (.connected ok) { d with side := side } := by
  have hdata := sslAccept_dataSsl h
  have hfd := ht.dataFd_eq_none hssl
  rw [← ht.side] at h hssl
  refine ⟨_, _, _, _, asks_handshake fd _, answers_handshake hfd hssl h, ?_, ?_⟩
  · intro str
    cases ok with
    | true => rfl
    | false => rfl
  · constructor
    · rfl
    · rw [hdata]
      cases ok with
      | true => rfl
      | false => rfl
    · exact ht.alloc

theorem exchanges_close (ht : t.Mirrors d) :
    Exchanges lib cfg .close t (.disposed (sslDataClose lib cfg d.side).1)
      { d with side := (sslDataClose lib cfg d.side).2 } := by
  cases hssl : d.side.dataSsl with
  | false =>
      have hclose : sslDataClose lib cfg d.side = (true, d.side) := by
        unfold sslDataClose
        rw [hssl, if_neg Bool.false_ne_true]
      rw [hclose]
      refine ⟨_, _, _, _, asks_close _, answers_close_none (ht.dataFd_eq_none hssl) ?_,
        fun _ => rfl, ht⟩
      rw [ht.side]
      exact hssl
  | true =>
      have hdata := ht.lacksData_eq_false hssl
      have hclosed := sslDataClose_dataSsl lib cfg d.side
      rw [← ht.side] at hssl hclosed ⊢
      refine ⟨_, _, _, _, asks_close _, answers_close hdata hssl, ?_, ?_⟩
      · intro str
        cases (sslDataClose lib cfg t.side).1 with
        | true => rfl
        | false => rfl
      · exact ⟨rfl, hclosed.symm, ht.alloc⟩

theorem exchanges (ht : t.Mirrors d) (hfit : op.Fits d)
    (h : directOp lib cfg op d = .ok (out, d')) : Exchanges lib cfg op t out d' := by
  cases op with
  | getline =>
      unfold directOp at h
      dsimp only at h
      split at h
      · cases h
      · rename_i hline
        cases h
        exact exchanges_getline ht hline
  | writeControl text =>
      cases h
      exact exchanges_writeControl ht hfit.2
  | writeStr text =>
      cases h
      exact exchanges_writeStr ht hfit.1 hfit.2.1 hfit.2.2
  | writeData buf =>
      cases h
      exact exchanges_writeData ht hfit.1 hfit.2.2
  | readData len =>
      cases h
      exact exchanges_readData ht hfit.1 hfit.2.1 hfit.2.2
  | handshake fd =>
      unfold directOp at h
      dsimp only at h
      split at h
      · cases h
      · rename_i haccept
        cases h
        exact exchanges_handshake ht hfit haccept
  | close =>
      cases h
      exact exchanges_close ht

/-- Nothing but a line or a handshake makes the one process halt. -/
theorem directOp_error {e : Halt} (h : directOp lib cfg op d = .error e) :
    (op = .getline ∧ ftpGetline lib cfg d.side = .error e) ∨
      ∃ fd, op = .handshake fd ∧ sslAccept lib cfg fd d.side = .error e := by
  cases op with
  | getline =>
      unfold directOp at h
      dsimp only at h
      split at h
      · rename_i hline
        cases h
        exact .inl ⟨rfl, hline⟩
      · cases h
  | handshake fd =>
      unfold directOp at h
      dsimp only at h
      split at h
      · rename_i haccept
        cases h
        exact .inr ⟨fd, rfl, haccept⟩
      · cases h
  | writeControl text => cases h
  | writeStr text => cases h
  | writeData buf => cases h
  | readData len => cases h
  | close => cases h

/-! ## Runs -/

section
variable (lib cfg)

abbrev Run (n : Nat) (c c' : Pair Msg Halt Consumer (Slave σ)) : Prop :=
  Steps (Step consumerTurn (slaveTurn lib cfg)) n c c'

abbrev Ended (c : Pair Msg Halt Consumer (Slave σ)) : Prop :=
  Final (Step consumerTurn (slaveTurn lib cfg)) c

/-- What the session dies of when the slave has halted: it waits for the number that goes
before a line, or for the result of a handshake. -/
def lostAnswer : Halt → Halt
  | .line _ => .die "priv_sock_get_int"
  | _ => .die "priv_sock_get_result"

/-- The session has what agrees with `outs`.  If the one process would have gone through,
the session has and the slave waits, with what it would have had; if it would have halted,
the slave has, and with it the session. -/
structure EndsAs (outs : List Out) (res : Except Halt (Direct σ))
    (c : Pair Msg Halt Consumer (Slave σ)) : Prop where
  outs : List.Forall₂ Out.Agrees outs c.client.state.outs
  unread : c.client.inbox = [] ∧ c.server.inbox = []
  ends : match res with
    | .ok d => c.client.code = .stop ∧ c.server.code = slaveTurn lib cfg c.server.state ∧
        c.server.state.Mirrors d
    | .error e => c.client.code = .halt (lostAnswer e) ∧ c.server.code = .halt e

/-- Both processes between two operations. -/
def between (ops : List Op) (str : Bytes) (outs : List Out) (t : Slave σ) :
    Pair Msg Halt Consumer (Slave σ) :=
  atTurn consumerTurn (slaveTurn lib cfg) ⟨ops, str, outs⟩ t

end

theorem run_op (ops : List Op) (str : Bytes) (outs : List Out) (ht : t.Mirrors d) (hfit : op.Fits d)
    (h : directOp lib cfg op d = .ok (out, d')) :
    ∃ n str' out' t', Run lib cfg n (between lib cfg (op :: ops) str outs t)
      (between lib cfg ops str' (outs ++ [out']) t') ∧ out.Agrees out' ∧ t'.Mirrors d' := by
  obtain ⟨sent, answers, made, t', hasks, hanswers, hagrees, hmirrors⟩ := exchanges ht hfit h
  obtain ⟨ask, str', hask, hdone⟩ := hasks ops str outs
  obtain ⟨n, hrun⟩ := steps_exchange hask hanswers hdone
  exact ⟨n, str', made str, t', hrun, hagrees str, hmirrors⟩

theorem run_fault (ops : List Op) (str : Bytes) (outs : List Out) {e : Halt} (ht : t.Mirrors d)
    (hfit : op.Fits d) (h : directOp lib cfg op d = .error e) :
    ∃ n s, Run lib cfg n (between lib cfg (op :: ops) str outs t)
      ⟨⟨s, .halt (lostAnswer e), []⟩, ⟨t, .halt e, []⟩⟩ ∧ s.outs = outs := by
  rcases directOp_error h with ⟨rfl, hline⟩ | ⟨fd, rfl, haccept⟩
  · obtain ⟨fault, rfl⟩ := ftpGetline_error hline
    rw [← ht.side] at hline
    obtain ⟨n, hrun⟩ := steps_halt (exec_ask_getline ops str outs) (answers_line_fault hline)
    exact ⟨n, _, hrun, rfl⟩
  · have hssl : d.side.dataSsl = false := hfit
    obtain rfl := sslAccept_error hssl haccept
    have hfd := ht.dataFd_eq_none hssl
    rw [← ht.side] at haccept hssl
    obtain ⟨n, hrun⟩ := steps_halt (exec_ask_handshake fd ops str outs)
      (answers_handshake_fault hfd hssl haccept)
    exact ⟨n, _, hrun, rfl⟩

/-- One way to the end. -/
theorem run_to_end (ht : t.Mirrors d) (hfit : OpsFit lib cfg ops d) (str : Bytes)
    {before outs : List Out} (houts : List.Forall₂ Out.Agrees before outs) :
    ∃ n c, Run lib cfg n (between lib cfg ops str outs t) c ∧ Ended lib cfg c ∧
      EndsAs lib cfg (before ++ (directRun lib cfg ops d).1) (directRun lib cfg ops d).2 c := by
  induction ops generalizing d t str before outs with
  | nil =>
      refine ⟨0, _, .refl _, final_stop rfl rfl, ?_, ⟨rfl, rfl⟩, rfl, rfl, ht⟩
      rw [directRun, List.append_nil]
      exact houts
  | cons op ops ih =>
      obtain ⟨hop, hrest⟩ := hfit
      unfold directRun
      cases hdirect : directOp lib cfg op d with
      | error e =>
          obtain ⟨n, s, hrun, hs⟩ := run_fault ops str outs ht hop hdirect
          refine ⟨n, _, hrun, final_halt, ?_, ⟨rfl, rfl⟩, rfl, rfl⟩
          rw [List.append_nil]
          show List.Forall₂ Out.Agrees before s.outs
          rw [hs]
          exact houts
      | ok made =>
          obtain ⟨out, d'⟩ := made
          rw [hdirect] at hrest
          obtain ⟨n, str', out', t', hrun, hagrees, hmirrors⟩ :=
            run_op ops str outs ht hop hdirect
          obtain ⟨k, c, hrun', hended, hends⟩ := ih hmirrors hrest str'
            (List.rel_append houts (.cons hagrees .nil))
          refine ⟨n + k, c, hrun.trans hrun', hended, ?_⟩
          rw [List.append_assoc] at hends
          exact hends

/-- No process has come to a halt, unless the one process does. -/
def NoFault (res : Except Halt (Direct σ)) (c : Pair Msg Halt Consumer (Slave σ)) : Prop :=
  match res with
  | .ok _ => c.client.code.halted = false ∧ c.server.code.halted = false
  | .error e => (∀ h, c.client.code = .halt h → h = lostAnswer e) ∧
      ∀ h, c.server.code = .halt h → h = e

/-- A fault would last to the end. -/
theorem noFault_of_run {n : Nat} {c last : Pair Msg Halt Consumer (Slave σ)} {outs : List Out}
    {res : Except Halt (Direct σ)} (hrun : Run lib cfg n c last)
    (hends : EndsAs lib cfg outs res last) : NoFault res c := by
  have hhalted := Steps.halted hrun
  have hlast := hends.ends
  cases res with
  | ok d =>
      constructor
      · by_contra hclient
        have hkeep := hhalted.1 (by simpa using hclient)
        rw [← hkeep, hlast.1] at hclient
        exact hclient rfl
      · by_contra hserver
        have hkeep := hhalted.2 (by simpa using hserver)
        rw [← hkeep, hlast.2.1] at hserver
        exact hserver rfl
  | error e =>
      constructor
      · intro h hclient
        have hkeep := hhalted.1 (by rw [hclient]; rfl)
        rw [hlast.1, hclient] at hkeep
        cases hkeep
        rfl
      · intro h hserver
        have hkeep := hhalted.2 (by rw [hserver]; rfl)
        rw [hlast.2, hserver] at hkeep
        cases hkeep
        rfl

/-- Every run, in whatever order, is a part of one that ends so. -/
theorem slave_lockstep (ht : t.Mirrors d) (hfit : OpsFit lib cfg ops d) (str : Bytes) :
    ∃ n last, Ended lib cfg last ∧
      EndsAs lib cfg (directRun lib cfg ops d).1 (directRun lib cfg ops d).2 last ∧
      ∀ k c, Run lib cfg k (between lib cfg ops str [] t) c →
        NoFault (directRun lib cfg ops d).2 c ∧ ∃ m, n = k + m ∧ Run lib cfg m c last := by
  obtain ⟨n, last, hrun, hended, hends⟩ := run_to_end ht hfit str .nil
  refine ⟨n, last, hended, hends, ?_⟩
  intro k c hpart
  obtain ⟨m, hm, hrest⟩ := hrun.every_run diamond hended hpart
  exact ⟨noFault_of_run hrest hends, m, hm, hrest⟩

theorem ftpGetline_eq_ok {e : SslSide σ} {res : LineResult σ}
    (h : strNetfdLoop (sslAdapters lib cfg) 10 (vsftpMaxCommandLine + 1)
      ⟨e.controlLineBuf, 0, vsftpMaxCommandLine, e.lib⟩ = .ok res) :
    ftpGetline lib cfg e =
      .ok (res.retval, res.str, { e with lib := res.sess, controlLineBuf := res.block }) := by
  unfold ftpGetline
  rw [h]

theorem ftpGetline_eq_error {e : SslSide σ} {fault : Fault}
    (h : strNetfdLoop (sslAdapters lib cfg) 10 (vsftpMaxCommandLine + 1)
      ⟨e.controlLineBuf, 0, vsftpMaxCommandLine, e.lib⟩ = .error fault) :
    ftpGetline lib cfg e = .error (.line fault) := by
  unfold ftpGetline
  rw [h]

end

/-! ### A line that is too long -/

def letters (len : Nat) : Bytes := List.replicate len 97

/-- All that is read is letters, or there is an error at once. -/
def lettersLib (fails : Bool) : SslLib Unit where
  sslRead _ len _ :=
    if fails then ⟨-1, [], (), rfl, Nat.zero_le _⟩
    else ⟨len, letters len, (), List.length_replicate, List.length_replicate.le⟩
  sslPeek _ len _ :=
    if fails then ⟨-1, [], (), rfl, Nat.zero_le _⟩
    else ⟨len, letters len, (), List.length_replicate, List.length_replicate.le⟩
  sslWrite _ _ _ := (1, ())
  isInt _ _ _ := by decide
  receivedShutdown _ _ := true
  sslShutdown _ := (1, ())
  sslFree _ := ()
  getSsl _ _ := (true, ())
  sslSessionReused _ := true
  sslCertDigest _ := .missing

def lettersSide : SslSide Unit := ⟨(), false, letters vsftpMaxCommandLine⟩

theorem slave_lockstep_letters : ∃ n last, Ended (lettersLib false) {} last ∧
    EndsAs (lettersLib false) {} [.connected true, .read 4 (letters 4), .written 0, .disposed true]
      (.ok ⟨lettersSide, []⟩) last ∧
    ∀ k c, Run (lettersLib false) {} k (between (lettersLib false) {}
        [.handshake 5, .readData 4, .writeStr [66], .close] [] [] { side := lettersSide }) c →
      NoFault (.ok ⟨lettersSide, []⟩ : Except Halt (Direct Unit)) c ∧
        ∃ m, n = k + m ∧ Run (lettersLib false) {} m c last := by
  have hfit : OpsFit (lettersLib false) {} [.handshake 5, .readData 4, .writeStr [66], .close]
      ⟨lettersSide, []⟩ :=
    ⟨rfl, ⟨rfl, by decide, by decide⟩, ⟨rfl, by decide, by decide⟩, trivial, trivial⟩
  have ht : Slave.Mirrors { side := lettersSide } ⟨lettersSide, []⟩ := ⟨rfl, rfl, by decide⟩
  exact slave_lockstep ht hfit []

theorem findTerm_letters (n : Nat) : findTerm 10 (letters n) 0 n 0 = .ok none := by
  have hletters : (10 : UInt8) ∉ letters n := by
    intro h
    exact absurd (List.eq_of_mem_replicate h) (by decide)
  have hmiss : findTerm 10 ([] ++ (letters n ++ [])) 0 (letters n).length 0 = .ok none :=
    findTerm_miss [] 0 0 hletters rfl
  rwa [List.append_nil, List.nil_append, letters, List.length_replicate] at hmiss

theorem overwrite_letters (n : Nat) :
    overwrite (letters n) 0 ((letters n).take n) = letters n := by
  have hlen : (letters n).length = n := List.length_replicate
  have hover := overwrite_append [] (letters n) ((letters n).take n)
  rw [List.take_of_length_le hlen.le, List.drop_length, List.append_nil] at hover
  rw [List.take_of_length_le hlen.le]
  exact hover

section
variable (cfg : SslConfig)

theorem peek_letters (n : Nat) :
    (sslAdapters (lettersLib false) cfg).peek () n = ⟨n, letters n, ()⟩ := by
  show (⟨sslReadCommon _ _ _ _, letters n, ()⟩ : NetResult Unit) = _
  congr 1
  unfold sslReadCommon
  exact if_neg fun h => Bool.noConfusion h.2

theorem readPeeked_letters (n : Nat) :
    readPeeked (sslAdapters (lettersLib false) cfg) ⟨letters n, 0, n, ()⟩ n =
      .ok (letters n, ()) := by
  have hread : (sslAdapters (lettersLib false) cfg).read () n = ⟨n, letters n, ()⟩ :=
    peek_letters cfg n
  have hlen : (letters n).length = n := List.length_replicate
  unfold readPeeked
  dsimp only
  rw [hlen, if_pos (by omega), hread]
  dsimp only
  rw [if_neg (by omega), overwrite_letters]

theorem strNetfdLoop_letters {fuel n : Nat} (hfuel : 0 < fuel) (hn : 0 < n) :
    strNetfdLoop (sslAdapters (lettersLib false) cfg) 10 (fuel + 1) ⟨letters n, 0, n, ()⟩ =
      .ok ⟨-1, [], letters n, ()⟩ := by
  have hlen : (letters n).length = n := List.length_replicate
  obtain ⟨fuel, rfl⟩ := Nat.exists_eq_add_of_lt hfuel
  rw [strNetfdLoop]
  dsimp only
  rw [hlen, if_neg (by omega), if_neg (by omega), peek_letters]
  dsimp only
  rw [if_neg (by omega), if_neg (by omega), overwrite_letters, Int.toNat_natCast,
    findTerm_letters]
  dsimp only [bind, Except.bind]
  rw [if_neg (by omega), readPeeked_letters]
  dsimp only
  rw [strNetfdLoop]
  dsimp only
  rw [hlen, if_neg (by omega), if_pos (by omega)]

theorem strNetfdLoop_fails (fuel : Nat) {n : Nat} (hn : 0 < n) :
    strNetfdLoop (sslAdapters (lettersLib true) cfg) 10 (fuel + 1) ⟨letters n, 0, n, ()⟩ =
      .error (.die "vsf_sysutil_recv_peek") := by
  have hlen : (letters n).length = n := List.length_replicate
  have hpeek : ((sslAdapters (lettersLib true) cfg).peek () n).retval = -1 := rfl
  rw [strNetfdLoop]
  dsimp only
  rw [hlen, if_neg (by omega), if_neg (by omega), hpeek, if_pos (by omega)]

theorem ftpGetline_letters :
    ftpGetline (lettersLib false) cfg lettersSide = .ok (-1, [], lettersSide) := by
  have hpos : 0 < vsftpMaxCommandLine := by decide
  have hloop := strNetfdLoop_letters cfg hpos hpos
  exact ftpGetline_eq_ok (e := lettersSide) hloop

theorem ftpGetline_fails :
    ftpGetline (lettersLib true) cfg lettersSide =
      .error (.line (.die "vsf_sysutil_recv_peek")) := by
  have hpos : 0 < vsftpMaxCommandLine := by decide
  have hloop := strNetfdLoop_fails cfg vsftpMaxCommandLine hpos
  exact ftpGetline_eq_error (e := lettersSide) hloop

end

/-- An error makes the slave die, and the session on its read of the answer; a line that is
too long empties the string of the one process and leaves the session's. -/
theorem slave_differs :
    (∃ n c, Run (lettersLib true) {} n
        (between (lettersLib true) {} [.getline] [65] [] { side := lettersSide }) c ∧
      c.client.code = .halt (.die "priv_sock_get_int")) ∧
    (directRun (lettersLib false) {} [.getline] ⟨lettersSide, [65]⟩).1 = [.line (-1) []] ∧
    ∃ n c, Run (lettersLib false) {} n
        (between (lettersLib false) {} [.getline] [65] [] { side := lettersSide }) c ∧
      c.client.state.outs = [.line (-1) [65]] := by
  have ht : Slave.Mirrors { side := lettersSide } ⟨lettersSide, [65]⟩ := ⟨rfl, rfl, by decide⟩
  have hret : (-1 : Int) < 0 := by decide
  have hfault : directOp (lettersLib true) {} .getline ⟨lettersSide, [65]⟩ =
      .error (.line (.die "vsf_sysutil_recv_peek")) := by
    rw [directOp, ftpGetline_fails]
  have hfit : Op.getline.Fits (⟨lettersSide, [65]⟩ : Direct Unit) := trivial
  obtain ⟨n, s, hrun, -⟩ := run_fault [] [65] [] ht hfit hfault
  obtain ⟨ask, str, hask, hdone⟩ := asks_no_line hret [] [65] []
  have hanswer := answers_line (t := { side := lettersSide }) (ftpGetline_letters {})
  obtain ⟨k, hrun'⟩ := steps_exchange hask hanswer hdone
  refine ⟨⟨n, _, hrun, rfl⟩, ?_, k, _, hrun', rfl⟩
  rw [directRun, directOp, ftpGetline_letters]
  rfl

end Vsftpd.Ssl
