import Vsftpd.FtpDataIo.Sendfile

/-!
# The law of a download

What goes out is a part of the file from the start offset on, and it is counted as it
is sent.  The law holds as long as the loop of reads and writes is not entered: the
first turn of it fails a bounds check.
-/

namespace Vsftpd.FtpDataIo.Sendfile

open Vsftpd.Lib Vsftpd.Lib.CheckedC

/-- The errors after which `do_sendfile` goes on to its second branch. -/
def FallsThrough (sendfileChecked : Bool) (e : SysError) : Prop :=
  e = .einval ∨ e = .eopnotsupp ∨ sendfileChecked = false ∧ e = .enosys

instance (sendfileChecked : Bool) (e : SysError) : Decidable (FallsThrough sendfileChecked e) :=
  inferInstanceAs (Decidable (_ ∨ _ ∨ _))

/-- While `need` bytes are still to be sent, at most `chunk` of them at a time, one of
the answers of `sendfile` is an error that falls through. -/
inductive FallsBack (chunk : Nat) : Bool → Nat → List SendAnswer → Prop
  | refused {checked : Bool} {need : Nat} {e : SysError} {rest : List SendAnswer}
      (h : FallsThrough checked e) : FallsBack chunk checked need (.error e :: rest)
  | interrupted {checked : Bool} {need : Nat} {rest : List SendAnswer}
      (h : FallsBack chunk checked need rest) :
      FallsBack chunk checked need (.error .eintr :: rest)
  | sent {checked : Bool} {need n : Nat} {rest : List SendAnswer} (hn : 0 < n)
      (hmore : min n chunk < need) (h : FallsBack chunk true (need - min n chunk) rest) :
      FallsBack chunk checked need (.sent n :: rest)

/-- What is known of the static variables between two transfers. -/
def Statics.Fresh (st : Statics) : Prop :=
  st.pRecvbuf.addr = none ∧ st.runtimeSendfileWorks = st.sendfileChecked

def Statics.settled (st : Statics) : Statics :=
  { st with sendfileChecked := true, runtimeSendfileWorks := true }

variable {chunk need count : Nat} {checked : Bool} {file : Bytes} {st st' : Statics}
  {io io' : Wire} {sends rest : List SendAnswer} {e : SysError} {n : Nat}

theorem Statics.Fresh.settled (h : st.Fresh) : st.settled.Fresh := ⟨h.1, rfl⟩

/-! ## The errors that fall through -/

theorem not_fallsThrough_eintr : ¬ FallsThrough checked .eintr := by
  cases checked <;> decide

theorem fallsBack_error_iff (he : e ≠ .eintr) :
    FallsBack chunk checked need (.error e :: rest) ↔ FallsThrough checked e := by
  constructor
  · intro h
    cases h with
    | refused h => exact h
    | interrupted h => exact absurd rfl he
  · exact .refused

theorem fallsBack_sent_iff :
    FallsBack chunk checked need (.sent n :: rest) ↔
      0 < n ∧ min n chunk < need ∧ FallsBack chunk true (need - min n chunk) rest := by
  constructor
  · intro h
    cases h with
    | sent hn hmore h => exact ⟨hn, hmore, h⟩
  · rintro ⟨hn, hmore, h⟩
    exact .sent hn hmore h

/-- The answers behind the interrupted calls. -/
def uninterrupted (sends : List SendAnswer) : List SendAnswer :=
  sends.dropWhile fun a => decide (a = .error .eintr)

theorem fallsBack_uninterrupted :
    FallsBack chunk checked need (uninterrupted sends) ↔ FallsBack chunk checked need sends := by
  induction sends with
  | nil => exact Iff.rfl
  | cons a sends ih =>
      unfold uninterrupted
      rw [List.dropWhile_cons]
      split_ifs with ha
      · rw [of_decide_eq_true ha]
        constructor
        · exact fun h => .interrupted (ih.mp h)
        · intro h
          cases h with
          | refused h => exact absurd h not_fallsThrough_eintr
          | interrupted h => exact ih.mpr h
      · exact Iff.rfl

theorem uninterrupted_head (h : uninterrupted sends = .error e :: rest) : e ≠ .eintr := by
  rintro rfl
  have hhead := List.head?_dropWhile_not (fun a => decide (a = SendAnswer.error .eintr)) sends
  unfold uninterrupted at h
  rw [h] at hhead
  exact of_decide_eq_false hhead rfl

/-! ## One call of `do_sendfile` -/

theorem sendfileLoop_eq (file : Bytes) (count : Nat) (sends : List SendAnswer) (io : Wire) :
    sendfileLoop file count sends io =
      { io with sends := uninterrupted sends }.sendfile file count := by
  induction sends with
  | nil => rfl
  | cons a sends ih =>
      by_cases ha : a = .error .eintr
      · have hskip : uninterrupted (a :: sends) = uninterrupted sends :=
          List.dropWhile_cons_of_pos (decide_eq_true ha)
        rw [hskip, ← ih, ha]
        rfl
      · have hstop : uninterrupted (a :: sends) = a :: sends :=
          List.dropWhile_cons_of_neg (by simpa using ha)
        rw [hstop]
        unfold sendfileLoop
        split
        · next heq => exact absurd (List.cons.inj heq).1 ha
        · rfl

theorem allocRecvbuf_stops (h : st.pRecvbuf.addr = none) : allocRecvbuf st = .error .bounds := by
  unfold allocRecvbuf
  rw [if_pos h]
  rfl

/-- The second branch. -/
theorem doSendfile_fallback {useSendfile : Bool} (h : st'.pRecvbuf.addr = none)
    (htry : trySendfile useSendfile file count st io = (none, st', io')) :
    doSendfile useSendfile file count st io = .error .bounds := by
  unfold doSendfile
  rw [htry]
  dsimp only
  rw [allocRecvbuf_stops h, error_bind]

theorem doSendfile_off (hfresh : st.Fresh) : doSendfile false file count st io = .error .bounds :=
  doSendfile_fallback hfresh.1 rfl

variable {answer : SendAnswer}

theorem trySendfile_eq (hfresh : st.Fresh)
    (hturn : sendfileLoop file count io.sends io = (answer, io')) :
    trySendfile true file count st io =
      ((st.check answer).returned answer, st.check answer, io') := by
  have hcalls : true = true ∧ (¬ st.sendfileChecked = true ∨ st.runtimeSendfileWorks = true) := by
    rw [hfresh.2]
    exact ⟨rfl, (Decidable.em _).symm⟩
  unfold trySendfile
  rw [if_pos hcalls, hturn]

theorem check_pRecvbuf (st : Statics) (answer : SendAnswer) :
    (st.check answer).pRecvbuf = st.pRecvbuf := by
  unfold Statics.check
  split_ifs <;> rfl

theorem check_works (hfresh : st.Fresh) (answer : SendAnswer) :
    (st.check answer).runtimeSendfileWorks =
      (st.sendfileChecked || decide (answer ≠ .error .enosys)) := by
  unfold Statics.check
  split_ifs with hchecked
  · rw [hfresh.2, hchecked, Bool.true_or]
  · dsimp only
    rw [hfresh.2]

theorem returned_error (hfresh : st.Fresh) (e : SysError) :
    (st.check (.error e)).returned (.error e) =
      if FallsThrough st.sendfileChecked e then none else some (-1) := by
  unfold Statics.returned FallsThrough
  dsimp only
  rw [check_works hfresh]
  cases st.sendfileChecked <;> cases e <;> rfl

theorem check_settled (hfresh : st.Fresh)
    (hgood : ∀ e, answer = .error e → ¬ FallsThrough st.sendfileChecked e) :
    st.check answer = st.settled := by
  unfold Statics.check Statics.settled
  split_ifs with hchecked
  · rw [← hchecked]
    nth_rewrite 2 [← hfresh.2]
    rfl
  · have hanswer : answer ≠ .error .enosys := by
      intro heq
      exact hgood .enosys heq (Or.inr (Or.inr ⟨Bool.eq_false_iff.mpr hchecked, rfl⟩))
    rw [decide_eq_true hanswer, Bool.or_true]

theorem doSendfile_sent (hfresh : st.Fresh)
    (hturn : sendfileLoop file count io.sends io = (.sent n, io')) :
    doSendfile true file count st io = .ok ((n : Int), st.settled, io') := by
  unfold doSendfile
  rw [trySendfile_eq hfresh hturn, check_settled hfresh fun _ h => SendAnswer.noConfusion h]
  rfl

theorem doSendfile_error (hfresh : st.Fresh)
    (hturn : sendfileLoop file count io.sends io = (.error e, io'))
    (he : ¬ FallsThrough st.sendfileChecked e) :
    doSendfile true file count st io = .ok (-1, st.settled, io') := by
  have hsettled : st.check (.error e) = st.settled :=
    check_settled hfresh fun _ h => (SendAnswer.error.inj h) ▸ he
  unfold doSendfile
  rw [trySendfile_eq hfresh hturn, returned_error hfresh, if_neg he, hsettled]

theorem doSendfile_refused (hfresh : st.Fresh)
    (hturn : sendfileLoop file count io.sends io = (.error e, io'))
    (he : FallsThrough st.sendfileChecked e) :
    doSendfile true file count st io = .error .bounds := by
  have hnull : (st.check (.error e)).pRecvbuf.addr = none := by
    rw [check_pRecvbuf]
    exact hfresh.1
  have htry : trySendfile true file count st io = (none, st.check (.error e), io') := by
    rw [trySendfile_eq hfresh hturn, returned_error hfresh, if_pos he]
  exact doSendfile_fallback hnull htry

/-! ## The loop -/

theorem copy_eq (io : Wire) (hroom : io.pos + count ≤ file.length) :
    io.copy file count =
      (count, { io with
        pos := io.pos + count, out := io.out ++ (file.drop io.pos).take count }) := by
  have hlen : ((file.drop io.pos).take count).length = count := by
    rw [List.length_take, List.length_drop]
    omega
  unfold Wire.copy
  dsimp only
  rw [hlen]

/-- When the answers are used up, everything is sent. -/
theorem turn_nil (file : Bytes) (offset count : Nat) (hfresh : st.Fresh)
    (hsends : uninterrupted io.sends = []) (hroom : offset + count ≤ file.length) :
    ∃ io', doSendfile true file count st { io with pos := offset } =
        .ok ((count : Int), st.settled, io') ∧
      io'.sends = [] ∧ io'.out = io.out ++ (file.drop offset).take count := by
  refine ⟨{ io with
      sends := [], pos := offset + count, out := io.out ++ (file.drop offset).take count },
    doSendfile_sent hfresh ?_, rfl, rfl⟩
  rw [sendfileLoop_eq, hsends]
  unfold Wire.sendfile
  dsimp only
  rw [copy_eq { io with sends := [], pos := offset } hroom]

theorem turn_sent (file : Bytes) (offset count : Nat) (hfresh : st.Fresh)
    (hsends : uninterrupted io.sends = .sent n :: rest)
    (hroom : offset + min n count ≤ file.length) :
    ∃ io', doSendfile true file count st { io with pos := offset } =
        .ok (((min n count : Nat) : Int), st.settled, io') ∧
      io'.sends = rest ∧ io'.out = io.out ++ (file.drop offset).take (min n count) := by
  refine ⟨{ io with
      sends := rest
      pos := offset + min n count
      out := io.out ++ (file.drop offset).take (min n count) },
    doSendfile_sent hfresh ?_, rfl, rfl⟩
  rw [sendfileLoop_eq, hsends]
  unfold Wire.sendfile
  dsimp only
  rw [copy_eq { io with sends := rest, pos := offset } hroom]

theorem turn_error (file : Bytes) (offset count : Nat) (hfresh : st.Fresh)
    (hsends : uninterrupted io.sends = .error e :: rest) :
    doSendfile true file count st { io with pos := offset } =
      if FallsThrough st.sendfileChecked e then .error .bounds
      else .ok (-1, st.settled, { io with sends := rest, pos := offset }) := by
  have hturn : sendfileLoop file count io.sends { io with pos := offset } =
      (.error e, { io with sends := rest, pos := offset }) := by
    rw [sendfileLoop_eq, hsends]
    rfl
  split_ifs with he
  · exact doSendfile_refused hfresh hturn he
  · exact doSendfile_error hfresh hturn he

section

variable {useSendfile : Bool} {fuel offset m : Nat} {retval : Int}

theorem sendLoop_zero : sendLoop useSendfile file chunk fuel 0 offset st io =
    .ok (0, offset, st, io) := by
  unfold sendLoop
  rfl

theorem sendThisTime_eq (need chunk : Nat) :
    (if need > chunk then chunk else need) = min need chunk := by
  split_ifs <;> omega

theorem sendLoop_succ (hneed : 0 < need) :
    sendLoop useSendfile file chunk (fuel + 1) need offset st io =
      (doSendfile useSendfile file (min need chunk) st { io with pos := offset } >>= fun r =>
        if r.1 ≤ 0 then .ok (r.1, offset, r.2.1, r.2.2)
        else sendLoop useSendfile file chunk fuel (need - r.1.toNat) (offset + r.1.toNat) r.2.1
          r.2.2) := by
  rw [sendLoop, if_neg (Nat.ne_of_gt hneed)]
  dsimp only
  rw [sendThisTime_eq]
  rfl

theorem sendLoop_stop (hneed : 0 < need) {stop : Stop}
    (hturn : doSendfile useSendfile file (min need chunk) st { io with pos := offset } =
      .error stop) :
    sendLoop useSendfile file chunk (fuel + 1) need offset st io = .error stop := by
  rw [sendLoop_succ hneed, hturn, error_bind]

theorem sendLoop_return (hneed : 0 < need)
    (hturn : doSendfile useSendfile file (min need chunk) st { io with pos := offset } =
      .ok (retval, st', io')) (hretval : retval ≤ 0) :
    sendLoop useSendfile file chunk (fuel + 1) need offset st io =
      .ok (retval, offset, st', io') := by
  rw [sendLoop_succ hneed, hturn, ok_bind, if_pos hretval]

theorem sendLoop_next (hneed : 0 < need)
    (hturn : doSendfile useSendfile file (min need chunk) st { io with pos := offset } =
      .ok ((m : Int), st', io')) (hm : 0 < m) :
    sendLoop useSendfile file chunk (fuel + 1) need offset st io =
      sendLoop useSendfile file chunk fuel (need - m) (offset + m) st' io' := by
  rw [sendLoop_succ hneed, hturn, ok_bind, if_neg (by dsimp only; omega)]
  rfl

/-- What went out: `k` bytes of the file, and all that was asked without an error. -/
def Counted (file : Bytes) (offset need : Nat) (io : Wire)
    (r : Int × Nat × Statics × Wire) : Prop :=
  ∃ k ≤ need, r.2.1 = offset + k ∧ r.2.2.2.out = io.out ++ (file.drop offset).take k ∧
    (k = need → r.1 = 0)

theorem counted_zero (file : Bytes) (offset : Nat) (st : Statics) (io : Wire) :
    Counted file offset 0 io (0, offset, st, io) := by
  refine ⟨0, Nat.le_refl 0, rfl, ?_, fun _ => rfl⟩
  rw [List.take_zero, List.append_nil]

theorem Counted.refl (hneed : 0 < need) (retval : Int) (st : Statics) {io io' : Wire}
    (hout : io'.out = io.out) : Counted file offset need io (retval, offset, st, io') := by
  refine ⟨0, Nat.zero_le need, rfl, ?_, fun h => ?_⟩
  · show io'.out = _
    rw [hout, List.take_zero, List.append_nil]
  · omega

/-- `m` bytes, and then what the rest of the loop sends. -/
theorem Counted.trans {r : Int × Nat × Statics × Wire} (hm : m ≤ need)
    (hout : io'.out = io.out ++ (file.drop offset).take m)
    (h : Counted file (offset + m) (need - m) io' r) : Counted file offset need io r := by
  obtain ⟨k, hk, hoffset, hrest, hdone⟩ := h
  refine ⟨m + k, by omega, by omega, ?_, fun hall => hdone (by omega)⟩
  rw [hrest, hout, List.append_assoc, List.take_add, List.drop_drop]

theorem sendLoop_counted (hchunk : 0 < chunk) (hfresh : st.Fresh) (hfuel : need ≤ fuel)
    (hsize : offset + need = file.length)
    (hstays : 0 < need → ¬ FallsBack chunk st.sendfileChecked need io.sends) :
    ∃ r, sendLoop true file chunk fuel need offset st io = .ok r ∧
      Counted file offset need io r := by
  induction fuel generalizing need offset st io with
  | zero =>
      have hzero : need = 0 := by omega
      subst hzero
      exact ⟨_, sendLoop_zero, counted_zero file offset st io⟩
  | succ fuel ih =>
      rcases Nat.eq_zero_or_pos need with hzero | hneed
      · subst hzero
        exact ⟨_, sendLoop_zero, counted_zero file offset st io⟩
      have hstays := hstays hneed
      rw [← fallsBack_uninterrupted] at hstays
      cases hsends : uninterrupted io.sends with
      | nil =>
          have hroom : offset + min need chunk ≤ file.length := by omega
          obtain ⟨io', hturn, hrest, hout⟩ :=
            turn_nil file offset (min need chunk) hfresh hsends hroom
          have hnext : 0 < need - min need chunk →
              ¬ FallsBack chunk st.settled.sendfileChecked (need - min need chunk) io'.sends := by
            intro _ h
            rw [hrest] at h
            cases h
          obtain ⟨r, hrun, hcounted⟩ := ih hfresh.settled (by omega)
            (show offset + min need chunk + (need - min need chunk) = _ by omega) hnext
          rw [sendLoop_next hneed hturn (by omega)]
          exact ⟨r, hrun, hcounted.trans (by omega) hout⟩
      | cons answer rest =>
          rw [hsends] at hstays
          cases answer with
          | error e =>
              have he : ¬ FallsThrough st.sendfileChecked e :=
                fun h => hstays ((fallsBack_error_iff (uninterrupted_head hsends)).mpr h)
              have hturn := turn_error file offset (min need chunk) hfresh hsends
              rw [if_neg he] at hturn
              exact ⟨_, sendLoop_return hneed hturn (by omega), Counted.refl hneed _ _ rfl⟩
          | sent n =>
              have hroom : offset + min n (min need chunk) ≤ file.length := by omega
              obtain ⟨io', hturn, hrest, hout⟩ :=
                turn_sent file offset (min need chunk) hfresh hsends hroom
              rcases Nat.eq_zero_or_pos n with hn | hn
              · refine ⟨_, sendLoop_return hneed hturn (by omega), Counted.refl hneed _ _ ?_⟩
                rw [hout, hn, Nat.zero_min, List.take_zero, List.append_nil]
              · have hnext : 0 < need - min n (min need chunk) →
                    ¬ FallsBack chunk st.settled.sendfileChecked (need - min n (min need chunk))
                      io'.sends := by
                  intro hmore h
                  have hamount : min n (min need chunk) = min n chunk := by omega
                  rw [hrest, hamount] at h
                  exact hstays (fallsBack_sent_iff.mpr ⟨hn, by omega, h⟩)
                obtain ⟨r, hrun, hcounted⟩ := ih hfresh.settled (by omega)
                  (show offset + min n (min need chunk) + (need - min n (min need chunk)) = _ by
                    omega) hnext
                rw [sendLoop_next hneed hturn (by omega)]
                exact ⟨r, hrun, hcounted.trans (by omega) hout⟩

theorem sendLoop_stops (hchunk : 0 < chunk) (hfresh : st.Fresh) (hneed : 0 < need)
    (hfuel : need ≤ fuel) (hsize : offset + need = file.length)
    (h : FallsBack chunk st.sendfileChecked need io.sends) :
    sendLoop true file chunk fuel need offset st io = .error .bounds := by
  induction fuel generalizing need offset st io with
  | zero => omega
  | succ fuel ih =>
      rw [← fallsBack_uninterrupted] at h
      cases hsends : uninterrupted io.sends with
      | nil =>
          rw [hsends] at h
          cases h
      | cons answer rest =>
          rw [hsends] at h
          cases answer with
          | error e =>
              have he := (fallsBack_error_iff (uninterrupted_head hsends)).mp h
              have hturn := turn_error file offset (min need chunk) hfresh hsends
              rw [if_pos he] at hturn
              exact sendLoop_stop hneed hturn
          | sent n =>
              obtain ⟨hn, hmore, hrest⟩ := fallsBack_sent_iff.mp h
              have hroom : offset + min n (min need chunk) ≤ file.length := by omega
              have hamount : min n (min need chunk) = min n chunk := by omega
              obtain ⟨io', hturn, hsends', -⟩ :=
                turn_sent file offset (min need chunk) hfresh hsends hroom
              rw [sendLoop_next hneed hturn (by omega), hamount]
              have hnext : FallsBack chunk st.settled.sendfileChecked (need - min n chunk)
                  io'.sends := by
                rw [hsends']
                exact hrest
              exact ih hfresh.settled (by omega) (by omega) (by omega) hnext

theorem sendLoop_off (hfresh : st.Fresh) (hneed : 0 < need) (hfuel : need ≤ fuel) :
    sendLoop false file chunk fuel need offset st io = .error .bounds := by
  cases fuel with
  | zero => omega
  | succ fuel => exact sendLoop_stop hneed (doSendfile_off hfresh)

/-! ## The static variables -/

theorem doSendfile_fresh (hfresh : st.Fresh)
    (hrun : doSendfile useSendfile file count st io = .ok (retval, st', io')) : st'.Fresh := by
  cases useSendfile with
  | false =>
      rw [doSendfile_off hfresh] at hrun
      cases hrun
  | true =>
      cases hturn : sendfileLoop file count io.sends io with
      | mk answer io₁ =>
          cases answer with
          | sent n =>
              rw [doSendfile_sent hfresh hturn] at hrun
              cases hrun
              exact hfresh.settled
          | error e =>
              by_cases he : FallsThrough st.sendfileChecked e
              · rw [doSendfile_refused hfresh hturn he] at hrun
                cases hrun
              · rw [doSendfile_error hfresh hturn he] at hrun
                cases hrun
                exact hfresh.settled

theorem sendLoop_fresh {offset' : Nat} (hfresh : st.Fresh)
    (hrun : sendLoop useSendfile file chunk fuel need offset st io =
      .ok (retval, offset', st', io')) : st'.Fresh := by
  induction fuel generalizing need offset st io with
  | zero =>
      unfold sendLoop at hrun
      split_ifs at hrun
      cases hrun
      exact hfresh
  | succ fuel ih =>
      rcases Nat.eq_zero_or_pos need with hzero | hneed
      · rw [hzero, sendLoop_zero] at hrun
        cases hrun
        exact hfresh
      · rw [sendLoop_succ hneed] at hrun
        obtain ⟨⟨r, st₁, io₁⟩, hturn, hrest⟩ := bind_eq_ok hrun
        have hfresh₁ := doSendfile_fresh hfresh hturn
        split_ifs at hrest
        · cases hrest
          exact hfresh₁
        · exact ih hfresh₁ hrest

theorem Statics.Reachable.fresh (h : st.Reachable) : st.Fresh := by
  induction h with
  | init => exact ⟨rfl, rfl⟩
  | send hst hrun ih =>
      obtain ⟨⟨retval, offset', st₁, io₁⟩, hsend, hrest⟩ := bind_eq_ok hrun
      have hfresh := sendLoop_fresh ih hsend
      dsimp only at hrest
      split_ifs at hrest <;> (cases hrest; exact hfresh)

end

/-! ## The transfer -/

/-- The limit on one call: `INT_MAX` where the session has no rate to keep. -/
def Config.maxChunk (c : Config) : Nat := if c.chunkSize = 0 then intMax else c.chunkSize

theorem Config.maxChunk_pos (c : Config) : 0 < c.maxChunk := by
  unfold Config.maxChunk intMax
  split_ifs <;> omega

/-- For some `k` the first `k` bytes from the offset on are what goes out, what the
offset advances by and what is reported, and success is that they are all. -/
def Lawful (c : Config) (file : Bytes) (offset : Nat) (st : Statics) (io : Wire) : Prop :=
  ∃ k ≤ calcNumSend file offset, ∃ retval ret st' io',
    vsfSysutilSendfile c.tunableUseSendfile file offset (calcNumSend file offset) c.chunkSize
        st io = .ok (retval, offset + k, st', io') ∧
      doFileSendSendfile c file offset (calcNumSend file offset) st io = .ok (ret, st', io') ∧
      io'.out = io.out ++ (file.drop offset).take k ∧ ret.transferred = k ∧
      (ret.retval = 0 ↔ k = calcNumSend file offset)

theorem calcNumSend_eq (file : Bytes) (offset : Nat) :
    calcNumSend file offset = file.length - offset := by
  unfold calcNumSend
  split_ifs <;> omega

variable {c : Config} {offset : Nat}

theorem lawful_of_counted {r : Int × Nat × Statics × Wire}
    (hrun : sendLoop c.tunableUseSendfile file c.maxChunk (calcNumSend file offset)
      (calcNumSend file offset) offset st io = .ok r)
    (h : Counted file offset (calcNumSend file offset) io r) : Lawful c file offset st io := by
  obtain ⟨retval, offset', st', io'⟩ := r
  obtain ⟨k, hk, hoffset, hout, hdone⟩ := h
  dsimp only at hoffset hout hdone
  subst hoffset
  have hsend : vsfSysutilSendfile c.tunableUseSendfile file offset (calcNumSend file offset)
      c.chunkSize st io = .ok (retval, offset + k, st', io') := hrun
  have hsent : offset + k - offset = k := Nat.add_sub_cancel_left offset k
  by_cases hall : k = calcNumSend file offset
  · have hzero : retval = 0 := hdone hall
    refine ⟨k, hk, retval, { transferred := k }, st', io', hsend, ?_, hout, rfl,
      iff_of_true rfl hall⟩
    unfold doFileSendSendfile
    rw [hsend, ok_bind]
    dsimp only
    rw [hsent, if_neg (by omega), if_neg (not_not.mpr hall)]
    rfl
  · refine ⟨k, hk, retval, { transferred := k, retval := -2 }, st', io', hsend, ?_, hout, rfl,
      iff_of_false (show (-2 : Int) ≠ 0 by decide) hall⟩
    unfold doFileSendSendfile
    rw [hsend, ok_bind]
    dsimp only
    rw [hsent, if_pos hall, ite_self]
    rfl

theorem not_lawful_of_stop (h : sendLoop c.tunableUseSendfile file c.maxChunk
      (calcNumSend file offset) (calcNumSend file offset) offset st io = .error .bounds) :
    ¬ Lawful c file offset st io := by
  rintro ⟨k, -, retval, ret, st', io', hsend, -⟩
  have hstop : vsfSysutilSendfile c.tunableUseSendfile file offset (calcNumSend file offset)
      c.chunkSize st io = .error .bounds := h
  rw [hsend] at hstop
  cases hstop

theorem doFileSendSendfile_lawful_iff (c : Config) (file : Bytes) (offset : Nat) (io : Wire)
    (h : st.Reachable) :
    Lawful c file offset st io ↔
      calcNumSend file offset = 0 ∨ c.tunableUseSendfile = true ∧
        ¬ FallsBack c.maxChunk st.sendfileChecked (calcNumSend file offset) io.sends := by
  have hfresh : st.Fresh := h.fresh
  rcases Nat.eq_zero_or_pos (calcNumSend file offset) with hzero | hneed
  · refine iff_of_true ?_ (Or.inl hzero)
    apply lawful_of_counted (r := (0, offset, st, io))
    · rw [hzero]
      exact sendLoop_zero
    · rw [hzero]
      exact counted_zero file offset st io
  rw [or_iff_right (Nat.ne_of_gt hneed)]
  have hsize : offset + calcNumSend file offset = file.length := by
    rw [calcNumSend_eq] at hneed ⊢
    omega
  cases huse : c.tunableUseSendfile with
  | false =>
      refine iff_of_false (not_lawful_of_stop ?_) fun h => Bool.noConfusion h.1
      rw [huse]
      exact sendLoop_off hfresh hneed (Nat.le_refl _)
  | true =>
      rw [and_iff_right rfl]
      constructor
      · intro hlawful hfalls
        apply not_lawful_of_stop _ hlawful
        rw [huse]
        exact sendLoop_stops c.maxChunk_pos hfresh hneed (Nat.le_refl _) hsize hfalls
      · intro hstays
        obtain ⟨r, hrun, hcounted⟩ :=
          sendLoop_counted c.maxChunk_pos hfresh (Nat.le_refl _) hsize fun _ => hstays
        rw [← huse] at hrun
        exact lawful_of_counted hrun hcounted

/-- With `use_sendfile` off, and where `sendfile` refuses the file. -/
theorem doFileSendSendfile_stops :
    (doFileSendSendfile { tunableUseSendfile := false } (bytes "data") 0 4 {}
        { sends := [] }).map (fun r => (r.1, r.2.2)) = .error .bounds ∧
      (doFileSendSendfile {} (bytes "data") 0 4 {}
        { sends := [.sent 2, .error .einval] }).map (fun r => (r.1, r.2.2)) = .error .bounds := by
  decide +kernel

theorem doFileSendSendfile_lawful_here :
    Statics.Reachable {} ∧
      (Lawful {} (bytes "data") 1 {} { sends := [.sent 2, .error .other] } ↔
        calcNumSend (bytes "data") 1 = 0 ∨ true = true ∧
          ¬ FallsBack (Config.maxChunk {}) false (calcNumSend (bytes "data") 1)
            [.sent 2, .error .other]) :=
  ⟨.init, doFileSendSendfile_lawful_iff {} (bytes "data") 1 { sends := [.sent 2, .error .other] }
    .init⟩

end Vsftpd.FtpDataIo.Sendfile
