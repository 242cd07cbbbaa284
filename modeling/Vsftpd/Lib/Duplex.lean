import Mathlib.Data.List.Basic

/-!
# Two processes and two queues

Each process goes through its turns for ever, and each has a queue of what the other has
sent to it.  Whatever the order in which the two take their steps, a run that ends tells
how every other run goes on.
-/

namespace Vsftpd.Lib.Duplex

/-! ## Steps that commute -/

section
variable {α : Type} {r : α → α → Prop} {n k : Nat} {a b c d : α}

inductive Steps (r : α → α → Prop) : Nat → α → α → Prop
  | refl (a : α) : Steps r 0 a a
  | head {n : Nat} {a b c : α} (h : r a b) (rest : Steps r n b c) : Steps r (n + 1) a c

theorem Steps.trans (h : Steps r n a b) (h' : Steps r k b c) : Steps r (n + k) a c := by
  induction h with
  | refl a =>
      rw [Nat.zero_add]
      exact h'
  | head hstep _ ih =>
      rw [Nat.add_right_comm]
      exact .head hstep (ih h')

/-- No step leads on. -/
def Final (r : α → α → Prop) (a : α) : Prop := ∀ b, ¬ r a b

def Diamond (r : α → α → Prop) : Prop :=
  ∀ a b c, r a b → r a c → b = c ∨ ∃ d, r b d ∧ r c d

/-- Any step is one of those to the end. -/
theorem Steps.of_step (hr : Diamond r) (h : Steps r n a c) (hc : Final r c) (hstep : r a b) :
    ∃ m, n = m + 1 ∧ Steps r m b c := by
  induction h generalizing b with
  | refl a => exact absurd hstep (hc b)
  | @head n a d c hfirst hrest ih =>
      refine ⟨n, rfl, ?_⟩
      rcases hr a d b hfirst hstep with rfl | ⟨e, hde, hbe⟩
      · exact hrest
      · obtain ⟨m, rfl, htail⟩ := ih hc hde
        exact .head hbe htail

/-- So every run leads to the end, and in as many steps. -/
theorem Steps.every_run (hr : Diamond r) (h : Steps r n a c) (hc : Final r c)
    (hrun : Steps r k a b) : ∃ m, n = k + m ∧ Steps r m b c := by
  induction hrun generalizing n with
  | refl a => exact ⟨n, (Nat.zero_add n).symm, h⟩
  | head hstep _ ih =>
      obtain ⟨m, rfl, htail⟩ := h.of_step hr hc hstep
      obtain ⟨l, rfl, hend⟩ := ih htail
      exact ⟨l, by omega, hend⟩

end

/-! ## Processes -/

/-- What a process does until the end of its turn, where it has a result in `R`.  A
process that waits for one which has come to a halt comes to one itself. -/
inductive Code (M H R : Type) where
  | next (res : R)
  | stop
  | halt (h : H)
  | send (m : M) (code : Code M H R)
  | recv (code : M → Code M H R) (closed : H)

namespace Code

variable {M H R T : Type}

def bind (code : Code M H R) (f : R → Code M H T) : Code M H T :=
  match code with
  | next res => f res
  | stop => stop
  | halt h => halt h
  | send m code => send m (code.bind f)
  | recv code closed => recv (fun m => (code m).bind f) closed

instance : Monad (Code M H) where
  pure := next
  bind := bind

theorem bind_next (code : Code M H R) : code.bind next = code := by
  induction code with
  | next res => rfl
  | stop => rfl
  | halt h => rfl
  | send m code ih => rw [bind, ih]
  | recv code closed ih =>
      rw [bind]
      congr 1
      funext m
      exact ih m

theorem bind_bind {U : Type} (code : Code M H R) (f : R → Code M H T) (g : T → Code M H U) :
    (code.bind f).bind g = code.bind fun res => (f res).bind g := by
  induction code with
  | next res => rfl
  | stop => rfl
  | halt h => rfl
  | send m code ih => rw [bind, bind, bind, ih]
  | recv code closed ih =>
      rw [bind, bind, bind]
      congr 1
      funext m
      exact ih m

instance : LawfulMonad (Code M H) := LawfulMonad.mk' _
  (fun code => bind_next code)
  (fun _ _ => rfl)
  (fun code f g => bind_bind code f g)

def halted : Code M H R → Bool
  | halt _ => true
  | _ => false

/-- What is sent, where the process ends or waits, and what it has not received. -/
structure Progress (M H R : Type) where
  sent : List M
  code : Code M H R
  inbox : List M

/-- The process by itself, as far as it comes. -/
def exec : Code M H R → List M → Progress M H R
  | next res, inbox => ⟨[], next res, inbox⟩
  | stop, inbox => ⟨[], stop, inbox⟩
  | halt h, inbox => ⟨[], halt h, inbox⟩
  | send m code, inbox => { code.exec inbox with sent := m :: (code.exec inbox).sent }
  | recv code _, m :: inbox => (code m).exec inbox
  | recv code closed, [] => ⟨[], recv code closed, []⟩

end Code

/-- A process between two turns, or in one. -/
structure Peer (M H S : Type) where
  state : S
  code : Code M H S
  inbox : List M

namespace Peer

variable {M H S : Type} {turn : S → Code M H S} {p p' : Peer M H S} {closed : Bool}
  {sent : List M}

/-- One step, `closed` being whether the other process has come to a halt. -/
def act (turn : S → Code M H S) (p : Peer M H S) (closed : Bool) : Option (Peer M H S × List M) :=
  match p.code with
  | .next s => some (⟨s, turn s, p.inbox⟩, [])
  | .stop => none
  | .halt _ => none
  | .send m code => some ({ p with code := code }, [m])
  | .recv code h =>
    match p.inbox with
    | m :: inbox => some ({ p with code := code m, inbox := inbox }, [])
    | [] => if closed then some ({ p with code := .halt h }, []) else none

def push (p : Peer M H S) (ms : List M) : Peer M H S := { p with inbox := p.inbox ++ ms }

/-- The process at the start of a turn. -/
def start (turn : S → Code M H S) (s : S) : Peer M H S := ⟨s, turn s, []⟩

theorem push_nil (p : Peer M H S) : p.push [] = p := by
  unfold push
  rw [List.append_nil]

theorem push_push (p : Peer M H S) (ms ms' : List M) :
    (p.push ms).push ms' = p.push (ms ++ ms') := by
  unfold push
  rw [List.append_assoc]

theorem not_halted_of_act (h : p.act turn closed = some (p', sent)) : p.code.halted = false := by
  unfold act at h
  cases hcode : p.code with
  | halt e =>
      rw [hcode] at h
      cases h
  | next s => rfl
  | stop => rfl
  | send m code => rfl
  | recv code e => rfl

/-- What a process can do it can also do later. -/
theorem act_push (h : p.act turn false = some (p', sent)) (ms : List M) (closed : Bool) :
    (p.push ms).act turn closed = some (p'.push ms, sent) := by
  obtain ⟨s, code, inbox⟩ := p
  cases code with
  | next s' =>
      cases h
      rfl
  | stop => cases h
  | halt e => cases h
  | send m code =>
      cases h
      rfl
  | recv code e =>
      cases inbox with
      | nil => cases h
      | cons m inbox =>
          cases h
          rfl

end Peer

/-! ## Two of them -/

structure Pair (M H S T : Type) where
  client : Peer M H S
  server : Peer M H T

section
variable {M H S T : Type} {turn : S → Code M H S} {serve : T → Code M H T}
  {c d : Pair M H S T}

inductive Step (turn : S → Code M H S) (serve : T → Code M H T) :
    Pair M H S T → Pair M H S T → Prop
  | client {c : Pair M H S T} {p : Peer M H S} {sent : List M}
      (h : c.client.act turn c.server.code.halted = some (p, sent)) :
      Step turn serve c ⟨p, c.server.push sent⟩
  | server {c : Pair M H S T} {q : Peer M H T} {sent : List M}
      (h : c.server.act serve c.client.code.halted = some (q, sent)) :
      Step turn serve c ⟨c.client.push sent, q⟩

theorem diamond_client_server {p : Peer M H S} {q : Peer M H T} {sent sent' : List M}
    (h : c.client.act turn c.server.code.halted = some (p, sent))
    (h' : c.server.act serve c.client.code.halted = some (q, sent')) :
    ∃ e, Step turn serve ⟨p, c.server.push sent⟩ e ∧
      Step turn serve ⟨c.client.push sent', q⟩ e := by
  rw [Peer.not_halted_of_act h'] at h
  rw [Peer.not_halted_of_act h] at h'
  exact ⟨⟨p.push sent', q.push sent⟩, .server (Peer.act_push h' sent _),
    .client (Peer.act_push h sent' _)⟩

theorem diamond : Diamond (Step turn serve) := by
  intro c d e hd he
  cases hd with
  | client h =>
      cases he with
      | client h' =>
          left
          rw [h] at h'
          cases h'
          rfl
      | server h' => exact .inr (diamond_client_server h h')
  | server h =>
      cases he with
      | client h' =>
          obtain ⟨x, hx, hx'⟩ := diamond_client_server h' h
          exact .inr ⟨x, hx', hx⟩
      | server h' =>
          left
          rw [h] at h'
          cases h'
          rfl

/-- A halt is for good. -/
theorem Step.halted (h : Step turn serve c d) :
    (c.client.code.halted = true → d.client.code = c.client.code) ∧
      (c.server.code.halted = true → d.server.code = c.server.code) := by
  cases h with
  | client h =>
      constructor
      · intro hhalted
        rw [Peer.not_halted_of_act h] at hhalted
        cases hhalted
      · exact fun _ => rfl
  | server h =>
      constructor
      · exact fun _ => rfl
      · intro hhalted
        rw [Peer.not_halted_of_act h] at hhalted
        cases hhalted

theorem Steps.halted {n : Nat} (h : Steps (Step turn serve) n c d) :
    (c.client.code.halted = true → d.client.code = c.client.code) ∧
      (c.server.code.halted = true → d.server.code = c.server.code) := by
  induction h with
  | refl c => exact ⟨fun _ => rfl, fun _ => rfl⟩
  | head hstep _ ih =>
      have hfirst := hstep.halted
      constructor
      · intro hhalted
        have hkeep := hfirst.1 hhalted
        rw [ih.1 (by rwa [hkeep]), hkeep]
      · intro hhalted
        have hkeep := hfirst.2 hhalted
        rw [ih.2 (by rwa [hkeep]), hkeep]

/-! ## One process at a time -/

theorem steps_client (turn : S → Code M H S) (serve : T → Code M H T) (s : S)
    (code : Code M H S) (inbox : List M) (q : Peer M H T) :
    ∃ n, Steps (Step turn serve) n ⟨⟨s, code, inbox⟩, q⟩
      ⟨⟨s, (code.exec inbox).code, (code.exec inbox).inbox⟩, q.push (code.exec inbox).sent⟩ := by
  induction code generalizing inbox q with
  | next s' => exact ⟨0, by rw [Code.exec, Peer.push_nil]; exact .refl _⟩
  | stop => exact ⟨0, by rw [Code.exec, Peer.push_nil]; exact .refl _⟩
  | halt h => exact ⟨0, by rw [Code.exec, Peer.push_nil]; exact .refl _⟩
  | send m code ih =>
      obtain ⟨n, hn⟩ := ih inbox (q.push [m])
      rw [Peer.push_push] at hn
      exact ⟨n + 1, .head (.client rfl) hn⟩
  | recv code closed ih =>
      cases inbox with
      | nil => exact ⟨0, by rw [Code.exec, Peer.push_nil]; exact .refl _⟩
      | cons m inbox =>
          obtain ⟨n, hn⟩ := ih m inbox q
          refine ⟨n + 1, .head (.client rfl) ?_⟩
          rw [Peer.push_nil]
          exact hn

theorem Step.swap (h : Step turn serve c d) :
    Step serve turn ⟨c.server, c.client⟩ ⟨d.server, d.client⟩ := by
  cases h with
  | client h => exact .server h
  | server h => exact .client h

theorem Steps.swap {n : Nat} (h : Steps (Step turn serve) n c d) :
    Steps (Step serve turn) n ⟨c.server, c.client⟩ ⟨d.server, d.client⟩ := by
  induction h with
  | refl c => exact .refl _
  | head hstep _ ih => exact .head hstep.swap ih

theorem steps_server (turn : S → Code M H S) (serve : T → Code M H T) (t : T)
    (code : Code M H T) (inbox : List M) (p : Peer M H S) :
    ∃ n, Steps (Step turn serve) n ⟨p, ⟨t, code, inbox⟩⟩
      ⟨p.push (code.exec inbox).sent, ⟨t, (code.exec inbox).code, (code.exec inbox).inbox⟩⟩ := by
  obtain ⟨n, hn⟩ := steps_client serve turn t code inbox p
  exact ⟨n, hn.swap⟩

/-! ## A request and its answer -/

variable {s s' : S} {t t' : T} {ask : Code M H S} {sent answers left : List M}

/-- Both processes at the start of a turn. -/
def atTurn (turn : S → Code M H S) (serve : T → Code M H T) (s : S) (t : T) : Pair M H S T :=
  ⟨Peer.start turn s, Peer.start serve t⟩

theorem steps_request (serve : T → Code M H T) (t : T)
    (hask : (turn s).exec [] = ⟨sent, ask, []⟩) :
    ∃ n, Steps (Step turn serve) n (atTurn turn serve s t)
      ⟨⟨s, ask, ((serve t).exec sent).sent⟩,
        ⟨t, ((serve t).exec sent).code, ((serve t).exec sent).inbox⟩⟩ := by
  obtain ⟨n, hn⟩ := steps_client turn serve s (turn s) [] (Peer.start serve t)
  obtain ⟨k, hk⟩ := steps_server turn serve t (serve t) sent ⟨s, ask, []⟩
  rw [hask] at hn
  exact ⟨n + k, hn.trans hk⟩

/-- The client sends, the server answers, and both come to their next turn. -/
theorem steps_exchange (hask : (turn s).exec [] = ⟨sent, ask, []⟩)
    (hanswer : (serve t).exec sent = ⟨answers, .next t', []⟩)
    (hdone : ask.exec answers = ⟨[], .next s', []⟩) :
    ∃ n, Steps (Step turn serve) n (atTurn turn serve s t) (atTurn turn serve s' t') := by
  obtain ⟨n, hn⟩ := steps_request serve t hask
  obtain ⟨k, hk⟩ := steps_client turn serve s ask answers ⟨t, .next t', []⟩
  rw [hanswer] at hn
  rw [hdone] at hk
  have hturns : Steps (Step turn serve) 2 ⟨⟨s, .next s', []⟩, ⟨t, .next t', []⟩⟩
      (atTurn turn serve s' t') :=
    .head (.client rfl) (.head (.server rfl) (.refl _))
  exact ⟨n + k + 2, (hn.trans hk).trans hturns⟩

/-- The server comes to a halt, and then the client, which waits for an answer. -/
theorem steps_halt {code : M → Code M H S} {closed h : H}
    (hask : (turn s).exec [] = ⟨sent, .recv code closed, []⟩)
    (hanswer : (serve t).exec sent = ⟨[], .halt h, left⟩) :
    ∃ n, Steps (Step turn serve) n (atTurn turn serve s t)
      ⟨⟨s, .halt closed, []⟩, ⟨t, .halt h, left⟩⟩ := by
  obtain ⟨n, hn⟩ := steps_request serve t hask
  rw [hanswer] at hn
  have hclosed : Step turn serve ⟨⟨s, .recv code closed, []⟩, ⟨t, .halt h, left⟩⟩
      ⟨⟨s, .halt closed, []⟩, Peer.push ⟨t, .halt h, left⟩ []⟩ := .client rfl
  rw [Peer.push_nil] at hclosed
  exact ⟨n + 1, hn.trans (.head hclosed (.refl _))⟩

/-- The client has stopped, and the server waits. -/
theorem final_stop {code : M → Code M H T} {closed : H} (hs : turn s = .stop)
    (ht : serve t = .recv code closed) : Final (Step turn serve) (atTurn turn serve s t) := by
  unfold atTurn Peer.start
  rw [hs, ht]
  intro d hstep
  cases hstep with
  | client h => cases h
  | server h => cases h

theorem final_halt {h h' : H} :
    Final (Step turn serve) ⟨⟨s, .halt h, sent⟩, ⟨t, .halt h', left⟩⟩ := by
  intro d hstep
  cases hstep with
  | client h => cases h
  | server h => cases h

end

/-! ## Running a process -/

namespace Code

variable {M H R T : Type}

/-- Messages sent before the others. -/
def Progress.after (ms : List M) (p : Progress M H R) : Progress M H R :=
  { p with sent := ms ++ p.sent }

end Code

end Vsftpd.Lib.Duplex
