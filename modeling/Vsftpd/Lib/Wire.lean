import Vsftpd.Lib.ExceptRules
import Vsftpd.Lib.PartialTransfer
import Vsftpd.Lib.Traced

/-!
# Records on a stream

A link delivers a stream in pieces.  A reader is exact when what it takes off the link is
the encoding of the record that it returns, and when it finds every record that is there.
A server that reads records with an exact reader does what it would do if the records were
handed to it, whatever the stream and its pieces are.
-/

namespace Vsftpd.Lib.Wire

open PartialTransfer

/-! ## Links -/

/-- How the next calls answer, and what is still to come. -/
structure Link (α : Type) where
  answers : List Answer
  source : List α

/-- Why there are fewer items than were asked for. -/
inductive Trouble where
  | closed
  | failed
  | waiting
  deriving DecidableEq, Repr

def Link.take {α : Type} (again : Nat → Bool) (size : Nat) (l : Link α) :
    Except Trouble (List α × Link α) :=
  let p := run again l.answers size l.source
  match p.ending with
  | .full => .ok (p.moved, ⟨p.rest, p.left⟩)
  | .closed => .error .closed
  | .failed => .error .failed
  | .waiting => .error .waiting

def moves : Answer → Bool
  | .moved n => 0 < n
  | .failed _ => false

/-- Nothing goes wrong, and there are calls enough. -/
structure Link.Lively {α : Type} (again : Nat → Bool) (l : Link α) : Prop where
  sound : ∀ a ∈ l.answers, moves a = true ∨ ∃ errno, a = .failed errno ∧ again errno = true
  enough : l.source.length ≤ l.answers.countP moves

section
variable {α : Type} {again : Nat → Bool} {size : Nat} {l l' : Link α} {items : List α}

theorem Link.take_eq_ok (hsize : 0 < size) (h : l.take again size = .ok (items, l')) :
    l.source = items ++ l'.source ∧ items.length = size := by
  have hsplit : (run again l.answers size l.source).moved ++
      (run again l.answers size l.source).left = l.source :=
    run_moved_append_left l.answers size l.source
  have hfull : (run again l.answers size l.source).ending = .full ↔
      (run again l.answers size l.source).moved.length = size :=
    run_full_iff hsize l.answers l.source
  unfold Link.take at h
  dsimp only at h
  cases hending : (run again l.answers size l.source).ending with
  | full =>
      rw [hending] at h
      cases h
      exact ⟨hsplit.symm, hfull.mp hending⟩
  | closed =>
      rw [hending] at h
      cases h
  | failed =>
      rw [hending] at h
      cases h
  | waiting =>
      rw [hending] at h
      cases h

theorem Link.take_of_full {p : Progress α} (hp : run again l.answers size l.source = p)
    (h : p.ending = .full) : l.take again size = .ok (p.moved, ⟨p.rest, p.left⟩) := by
  unfold Link.take
  dsimp only
  rw [hp, h]

/-- A lively link has what is asked for, and stays lively. -/
theorem run_lively (answers : List Answer) (size : Nat) (source : List α)
    (h : Link.Lively again ⟨answers, source⟩) (hpos : 0 < size) (hsize : size ≤ source.length) :
    (run again answers size source).ending = .full ∧
      Link.Lively again
        ⟨(run again answers size source).rest, (run again answers size source).left⟩ := by
  induction answers generalizing size source with
  | nil =>
      have henough : source.length ≤ 0 := h.enough
      omega
  | cons answer rest ih =>
      have hrest : ∀ a ∈ rest, moves a = true ∨ ∃ errno, a = .failed errno ∧ again errno = true :=
        fun a ha => h.sound a (List.mem_cons_of_mem _ ha)
      have henough : source.length ≤ (answer :: rest).countP moves := h.enough
      rw [List.countP_cons] at henough
      cases answer with
      | failed errno =>
          have hagain : again errno = true := by
            rcases h.sound _ List.mem_cons_self with hmoves | ⟨e, he, hagain⟩
            · cases hmoves
            · cases he
              exact hagain
          rw [run, if_pos hagain]
          exact ih size source ⟨hrest, henough⟩ hpos hsize
      | moved n =>
          have hn : 0 < n := by
            rcases h.sound _ List.mem_cons_self with hmoves | ⟨e, he, -⟩
            · exact of_decide_eq_true hmoves
            · cases he
          have hlength : (taken n size source).length = min n size := by
            unfold taken
            rw [List.length_take]
            omega
          have hleft : (source.drop (taken n size source).length).length ≤ rest.countP moves := by
            have hone : (if moves (.moved n) = true then 1 else 0) ≤ 1 := by
              split_ifs <;> omega
            rw [List.length_drop]
            omega
          rw [run]
          have hnone : taken n size source ≠ [] := List.ne_nil_of_length_pos (by omega)
          rw [if_neg hnone]
          by_cases hfull : (taken n size source).length = size
          · rw [if_pos hfull]
            exact ⟨rfl, hrest, hleft⟩
          · rw [if_neg hfull, Progress.after_ending, Progress.after_rest, Progress.after_left]
            refine ih _ _ ⟨hrest, hleft⟩ (by omega) ?_
            rw [List.length_drop]
            omega

theorem Link.Lively.take (h : l.Lively again) (hpos : 0 < size) {rest : List α}
    (hsource : l.source = items ++ rest) (hsize : items.length = size) :
    ∃ l', l.take again size = .ok (items, l') ∧ l'.Lively again ∧ l'.source = rest := by
  have hlength : size ≤ l.source.length := by
    rw [hsource, List.length_append]
    omega
  obtain ⟨hfull, hlively⟩ := run_lively l.answers size l.source h hpos hlength
  have htake := Link.take_of_full rfl hfull
  obtain ⟨hsplit, hcount⟩ := Link.take_eq_ok hpos htake
  obtain ⟨hitems, hrest⟩ := List.append_inj (hsource.symm.trans hsplit) (hsize.trans hcount.symm)
  rw [← hitems] at htake
  exact ⟨_, htake, hlively, hrest.symm⟩

end

/-! ## Readers -/

/-- A program that reads from a link. -/
abbrev Reader (α ε A : Type) := StateT (Link α) (Except ε) A

/-- The reader returns the valid records, and takes their encodings off the link. -/
structure Exact {α ε A : Type} (again : Nat → Bool) (read : Reader α ε A) (encode : A → List α)
    (valid : A → Prop) : Prop where
  sound : ∀ l a l', read l = .ok (a, l') → valid a ∧ l.source = encode a ++ l'.source
  complete : ∀ l a rest, l.Lively again → valid a → l.source = encode a ++ rest →
    ∃ l', read l = .ok (a, l') ∧ l'.Lively again ∧ l'.source = rest

section
variable {α ε A B : Type} {again : Nat → Bool} {read : Reader α ε A} {encode : A → List α}
  {valid : A → Prop}

theorem reader_bind (f : A → Reader α ε B) (l : Link α) :
    (read >>= f) l = (read l >>= fun r => f r.1 r.2) := rfl

/-- A number of items, once it is clear that there are some. -/
theorem exact_take {ε : Type} {size : Nat} (hsize : 0 < size) {trouble : Trouble → ε} :
    Exact again (fun l => (l.take again size).mapError trouble : Reader α ε (List α))
      (fun items => items) fun items => items.length = size where
  sound := by
    intro l items l' h
    cases htake : l.take again size with
    | error e =>
        rw [htake] at h
        cases h
    | ok r =>
        rw [htake] at h
        cases h
        obtain ⟨hsource, hlength⟩ := Link.take_eq_ok hsize htake
        exact ⟨hlength, hsource⟩
  complete := by
    intro l items rest hlively hlength hsource
    obtain ⟨l', htake, hrest⟩ := hlively.take hsize hsource hlength
    refine ⟨l', ?_, hrest⟩
    show (l.take again size).mapError trouble = .ok (items, l')
    rw [htake]
    rfl

theorem exact_pure (a : A) :
    Exact again (pure a : Reader α ε A) (fun _ => []) fun b => b = a where
  sound := by
    intro l b l' h
    cases h
    exact ⟨rfl, rfl⟩
  complete := by
    intro l b rest hlively hb hsource
    rw [hb]
    exact ⟨l, rfl, hlively, hsource⟩

/-- What is read is known by a part of the record, the `key`. -/
theorem Exact.bind {f : A → Reader α ε B} {encodeRest : A → B → List α}
    {validRest : A → B → Prop} {encodeB : B → List α} {validB : B → Prop} (key : B → A)
    (h : Exact again read encode valid)
    (hf : ∀ a, valid a → Exact again (f a) (encodeRest a) (validRest a))
    (hkey : ∀ a b, valid a → validRest a b → key b = a)
    (hvalid : ∀ b, validB b ↔ valid (key b) ∧ validRest (key b) b)
    (hencode : ∀ b, validB b → encodeB b = encode (key b) ++ encodeRest (key b) b) :
    Exact again (read >>= f) encodeB validB where
  sound := by
    intro l b l' hrun
    rw [reader_bind] at hrun
    obtain ⟨r, hread, hrest⟩ := bind_eq_ok hrun
    obtain ⟨ha, hsource⟩ := h.sound l r.1 r.2 hread
    obtain ⟨hb, hleft⟩ := (hf r.1 ha).sound r.2 b l' hrest
    have hkeyb := hkey r.1 b ha hb
    have hvalidb : validB b := by
      rw [hvalid, hkeyb]
      exact ⟨ha, hb⟩
    refine ⟨hvalidb, ?_⟩
    rw [hencode b hvalidb, hkeyb, hsource, hleft, List.append_assoc]
  complete := by
    intro l b rest hlively hb hsource
    obtain ⟨ha, hrest⟩ := (hvalid b).mp hb
    rw [hencode b hb, List.append_assoc] at hsource
    obtain ⟨l₁, hread, hlively₁, hsource₁⟩ := h.complete l (key b) _ hlively ha hsource
    obtain ⟨l', hread', hl'⟩ := (hf (key b) ha).complete l₁ b rest hlively₁ hrest hsource₁
    refine ⟨l', ?_, hl'⟩
    rw [reader_bind, hread]
    exact hread'

theorem Exact.guard {c : Prop} [Decidable c] {e : ε} (h : ¬ c → Exact again read encode valid) :
    Exact again (if c then throw e else read) encode fun a => ¬ c ∧ valid a := by
  by_cases hc : c
  · rw [if_pos hc]
    refine ⟨fun l a l' hrun => ?_, fun l a rest _ ha _ => absurd hc ha.1⟩
    cases hrun
  · rw [if_neg hc]
    refine ⟨fun l a l' hrun => ?_, fun l a rest hlively ha hsource => ?_⟩
    · obtain ⟨ha, hsource⟩ := (h hc).sound l a l' hrun
      exact ⟨⟨hc, ha⟩, hsource⟩
    · exact (h hc).complete l a rest hlively ha.2 hsource

end

/-! ## Servers -/

variable {α ε A E S H : Type}

/-- A record is read from the link. -/
def receive (read : Reader α ε A) (stop : ε → H) : Prog E (Link α × S) H A := fun s =>
  match read s.1 with
  | .ok (a, l) => ([], (l, s.2), .ok a)
  | .error e => ([], s, .error (stop e))

/-- A program that leaves the link alone. -/
def offline (m : Prog E S H A) : Prog E (Link α × S) H A := fun s =>
  ((m s.2).1, (s.1, (m s.2).2.1), (m s.2).2.2)

/-- The next record is read and judged. -/
def serveOne (read : Reader α ε A) (stop : ε → H) (judge : A → Prog E S H Unit) :
    Prog E (Link α × S) H Unit := do
  let a ← receive read stop
  offline (judge a)

section
variable {again : Nat → Bool} {read : Reader α ε A} {encode : A → List α} {valid : A → Prop}
  {stop : ε → H} {judge : A → Prog E S H Unit}

theorem serveOne_error {l : Link α} {e : ε} (h : read l = .error e) (s : S) :
    serveOne read stop judge (l, s) = ([], (l, s), .error (stop e)) := by
  show Prog.bind (receive read stop) (fun a => offline (judge a)) (l, s) = _
  unfold Prog.bind receive
  rw [h]

theorem serveOne_ok {l l' : Link α} {a : A} (h : read l = .ok (a, l')) (s : S) :
    serveOne read stop judge (l, s) =
      ((judge a s).1, (l', (judge a s).2.1), (judge a s).2.2) := by
  show Prog.bind (receive read stop) (fun a => offline (judge a)) (l, s) = _
  unfold Prog.bind receive
  rw [h]
  rfl

/-- The run over the link is the run over the records: it ends as that does, or it is in
need of a record that the link does not have. -/
structure Serves (encode : A → List α) (valid : A → Prop) (stop : ε → H)
    (judge : A → Prog E S H Unit) (n : Nat) (l : Link α) (s : S) (records : List A)
    (out : List E × (Link α × S) × Except H Unit) : Prop where
  valid : ∀ a ∈ records, valid a
  source : l.source = records.flatMap encode ++ out.2.1.1.source
  events : out.1 = (Prog.forEach judge records s).1
  state : out.2.1.2 = (Prog.forEach judge records s).2.1
  result : out.2.2 = (Prog.forEach judge records s).2.2 ∧ (out.2.2 = .ok () → records.length = n) ∨
    (Prog.forEach judge records s).2.2 = .ok () ∧ ∃ e, out.2.2 = .error (stop e)
  /-- Only the last record may end the service. -/
  last : (Prog.forEach judge records.dropLast s).2.2 = .ok ()

theorem bind_run_ok {B : Type} {m : Prog E S H A} {f : A → Prog E S H B} {s s' : S} {es : List E}
    {a : A} (h : m s = (es, s', .ok a)) : (m >>= f) s = (es ++ (f a s').1, (f a s').2) := by
  show Prog.bind m f s = _
  unfold Prog.bind
  rw [h]

theorem bind_run_error {B : Type} {m : Prog E S H A} {f : A → Prog E S H B} {s s' : S} {es : List E}
    {e : H} (h : m s = (es, s', .error e)) : (m >>= f) s = (es, s', .error e) := by
  show Prog.bind m f s = _
  unfold Prog.bind
  rw [h]

theorem forEach_concat {as : List A} {a : A} {s s' : S} {es : List E}
    (h : Prog.forEach judge as s = (es, s', .ok ())) :
    Prog.forEach judge (as ++ [a]) s = (es ++ (judge a s').1, (judge a s').2) := by
  induction as generalizing s es with
  | nil =>
      cases h
      show (judge a >>= fun _ => pure ()) s' = _
      rw [bind_pure_unit]
      rfl
  | cons b as ih =>
      cases hjudge : judge b s with
      | mk fs end₁ =>
          obtain ⟨s₁, result⟩ := end₁
          cases result with
          | error e =>
              have hone : Prog.forEach judge (b :: as) s = (fs, s₁, .error e) :=
                bind_run_error hjudge
              rw [hone] at h
              cases h
          | ok u =>
              have hmore : Prog.forEach judge (b :: as) s =
                  (fs ++ (Prog.forEach judge as s₁).1, (Prog.forEach judge as s₁).2) :=
                bind_run_ok hjudge
              rw [hmore] at h
              have hes : fs ++ (Prog.forEach judge as s₁).1 = es := congrArg Prod.fst h
              have hend : (Prog.forEach judge as s₁).2 = (s', .ok ()) := congrArg Prod.snd h
              have hrest : Prog.forEach judge as s₁ = ((Prog.forEach judge as s₁).1, s', .ok ()) :=
                Prod.ext rfl hend
              have hlast : Prog.forEach judge (b :: (as ++ [a])) s = _ := bind_run_ok hjudge
              rw [List.cons_append, hlast, ih hrest, ← List.append_assoc, hes]

/-- Every run of the server is a run over records. -/
theorem serve_sound (h : Exact again read encode valid) (n : Nat) (l : Link α) (s : S) :
    ∃ records, Serves encode valid stop judge n l s records
      (Prog.iterate (serveOne read stop judge) n (l, s)) := by
  induction n generalizing l s with
  | zero =>
      exact ⟨[], fun _ ha => absurd ha List.not_mem_nil, rfl, rfl, rfl,
        .inl ⟨rfl, fun _ => rfl⟩, rfl⟩
  | succ n ih =>
      show ∃ records, Serves encode valid stop judge (n + 1) l s records
        ((serveOne read stop judge >>= fun _ => Prog.iterate (serveOne read stop judge) n) (l, s))
      cases hread : read l with
      | error e =>
          rw [bind_run_error (serveOne_error hread s)]
          exact ⟨[], fun _ ha => absurd ha List.not_mem_nil, rfl, rfl, rfl, .inr ⟨rfl, e, rfl⟩, rfl⟩
      | ok r =>
          obtain ⟨a, l'⟩ := r
          obtain ⟨ha, hsource⟩ := h.sound l a l' hread
          have hserve : serveOne read stop judge (l, s) =
              ((judge a s).1, (l', (judge a s).2.1), (judge a s).2.2) := serveOne_ok hread s
          cases hjudge : judge a s with
          | mk es end₁ =>
              obtain ⟨s₁, result⟩ := end₁
              rw [hjudge] at hserve
              cases result with
              | error e =>
                  have hone : Prog.forEach judge [a] s = (es, s₁, .error e) := bind_run_error hjudge
                  rw [bind_run_error hserve]
                  refine ⟨[a], ⟨?_, ?_, ?_, ?_, ?_, rfl⟩⟩
                  · intro b hb
                    rw [List.mem_singleton.mp hb]
                    exact ha
                  · rw [List.flatMap_cons, List.flatMap_nil, List.append_nil]
                    exact hsource
                  · rw [hone]
                  · rw [hone]
                  · rw [hone]
                    exact .inl ⟨rfl, fun hok => by cases hok⟩
              | ok u =>
                  obtain ⟨records, hrest⟩ := ih l' s₁
                  have hmore : Prog.forEach judge (a :: records) s =
                      (es ++ (Prog.forEach judge records s₁).1,
                        (Prog.forEach judge records s₁).2) := bind_run_ok hjudge
                  rw [bind_run_ok hserve]
                  refine ⟨a :: records, ⟨?_, ?_, ?_, ?_, ?_, ?_⟩⟩
                  · intro b hb
                    rcases List.mem_cons.mp hb with rfl | hb
                    · exact ha
                    · exact hrest.valid b hb
                  · rw [List.flatMap_cons, List.append_assoc, hsource, hrest.source]
                  · rw [hmore, hrest.events]
                  · rw [hmore]
                    exact hrest.state
                  · rw [hmore]
                    rcases hrest.result with ⟨hresult, hcount⟩ | hstop
                    · refine .inl ⟨hresult, fun hok => ?_⟩
                      rw [List.length_cons, hcount hok]
                    · exact .inr hstop
                  · cases records with
                    | nil => rfl
                    | cons b rest =>
                        have hfirst : Prog.forEach judge (a :: (b :: rest).dropLast) s = _ :=
                          bind_run_ok hjudge
                        rw [List.dropLast_cons_cons, hfirst]
                        exact hrest.last

/-- Records that are on the link are served, when the link delivers them. -/
theorem serve_complete (h : Exact again read encode valid) (records : List A) (rest : List α)
    (l : Link α) (s : S) (hlively : l.Lively again) (hvalid : ∀ a ∈ records, valid a)
    (hsource : l.source = records.flatMap encode ++ rest) :
    ∃ l', Prog.iterate (serveOne read stop judge) records.length (l, s) =
      ((Prog.forEach judge records s).1, (l', (Prog.forEach judge records s).2.1),
        (Prog.forEach judge records s).2.2) := by
  induction records generalizing l s with
  | nil => exact ⟨l, rfl⟩
  | cons a records ih =>
      rw [List.flatMap_cons, List.append_assoc] at hsource
      obtain ⟨l₁, hread, hlively₁, hsource₁⟩ :=
        h.complete l a _ hlively (hvalid a List.mem_cons_self) hsource
      have hserve : serveOne read stop judge (l, s) =
          ((judge a s).1, (l₁, (judge a s).2.1), (judge a s).2.2) := serveOne_ok hread s
      cases hjudge : judge a s with
      | mk es end₁ =>
          obtain ⟨s₁, result⟩ := end₁
          rw [hjudge] at hserve
          cases result with
          | error e =>
              have hone : Prog.forEach judge (a :: records) s = (es, s₁, .error e) :=
                bind_run_error hjudge
              rw [hone]
              exact ⟨l₁, bind_run_error hserve⟩
          | ok u =>
              have hmore : Prog.forEach judge (a :: records) s =
                  (es ++ (Prog.forEach judge records s₁).1, (Prog.forEach judge records s₁).2) :=
                bind_run_ok hjudge
              obtain ⟨l', hl'⟩ := ih l₁ s₁ hlively₁
                (fun b hb => hvalid b (List.mem_cons_of_mem _ hb)) hsource₁
              refine ⟨l', ?_⟩
              rw [hmore]
              have hrun : Prog.iterate (serveOne read stop judge) (records.length + 1) (l, s) = _ :=
                bind_run_ok hserve
              rw [List.length_cons, hrun, hl']

end

end Vsftpd.Lib.Wire
