import Mathlib.Data.List.Nodup
import Mathlib.Logic.Function.Basic

/-!
# Doubly linked lists on a heap

A list that ends with a null pointer and whose nodes point back: its nodes are
distinct, and what insertion at the head and removal of a node anywhere in it do.
-/

namespace Vsftpd.Lib.LinkedList

/-- An address, or null. -/
abbrev Ptr := Option Nat

structure Node (D : Type) where
  data : D
  prev : Ptr
  next : Ptr

/-- What is allocated. -/
abbrev Heap (D : Type) := Nat → Option (Node D)

variable {D : Type} {h h' : Heap D} {prev p : Ptr} {a : Nat} {n : Node D} {as xs ys : List Nat}

/-- `as` are the nodes from `p` on, and `prev` is the back link of the first of them. -/
def Linked (h : Heap D) : Ptr → Ptr → List Nat → Prop
  | _, p, [] => p = none
  | prev, p, a :: as => p = some a ∧ ∃ n, h a = some n ∧ n.prev = prev ∧ Linked h (some a) n.next as

theorem Linked.head (hl : Linked h prev p as) : p = as.head? := by
  cases as with
  | nil => exact hl
  | cons a as => exact hl.1

theorem Linked.live (hl : Linked h prev p as) (ha : a ∈ as) : ∃ n, h a = some n := by
  induction as generalizing prev p with
  | nil => exact absurd ha List.not_mem_nil
  | cons b as ih =>
      obtain ⟨-, n, hn, -, hrest⟩ := hl
      rcases List.mem_cons.mp ha with rfl | ha
      · exact ⟨n, hn⟩
      · exact ih hrest ha

/-- A list is where its nodes are. -/
theorem Linked.congr (hl : Linked h prev p as) (hsame : ∀ a ∈ as, h' a = h a) :
    Linked h' prev p as := by
  induction as generalizing prev p with
  | nil => exact hl
  | cons a as ih =>
      obtain ⟨hp, n, hn, hprev, hrest⟩ := hl
      have hself : h' a = some n := (hsame a List.mem_cons_self).trans hn
      exact ⟨hp, n, hself, hprev, ih hrest fun b hb => hsame b (List.mem_cons_of_mem _ hb)⟩

/-- The nodes from a pointer on are determined. -/
theorem Linked.unique {prev' : Ptr} {bs : List Nat} (hl : Linked h prev p as)
    (hl' : Linked h prev' p bs) : as = bs := by
  induction as generalizing prev prev' p bs with
  | nil =>
      have hhead : none = bs.head? := hl.symm.trans hl'.head
      exact (List.head?_eq_none_iff.mp hhead.symm).symm
  | cons a as ih =>
      obtain ⟨hp, n, hn, -, hrest⟩ := hl
      cases bs with
      | nil =>
          have hnull : p = none := hl'
          rw [hp] at hnull
          exact absurd hnull (by simp)
      | cons b bs =>
          obtain ⟨hp', n', hn', -, hrest'⟩ := hl'
          obtain rfl : a = b := Option.some.inj (hp.symm.trans hp')
          obtain rfl : n = n' := Option.some.inj (hn.symm.trans hn')
          rw [ih hrest hrest']

/-! ## A node in the list -/

/-- The back link of what follows `xs`. -/
def lastLink (prev : Ptr) (xs : List Nat) : Ptr := xs.getLast?.or prev

theorem lastLink_cons (prev : Ptr) (x : Nat) (xs : List Nat) :
    lastLink prev (x :: xs) = lastLink (some x) xs := by
  unfold lastLink
  rw [List.getLast?_cons]
  cases xs.getLast? <;> rfl

theorem Linked.suffix (hl : Linked h prev p (xs ++ ys)) :
    Linked h (lastLink prev xs) ys.head? ys := by
  induction xs generalizing prev p with
  | nil =>
      have hhead := hl.head
      rw [hhead] at hl
      exact hl
  | cons x xs ih =>
      obtain ⟨-, n, -, -, hrest⟩ := hl
      rw [lastLink_cons]
      exact ih hrest

/-- The links of a node in the list are its neighbours. -/
theorem Linked.node (hl : Linked h prev p (xs ++ a :: ys)) :
    ∃ n, h a = some n ∧ n.prev = lastLink prev xs ∧ n.next = ys.head? := by
  obtain ⟨-, n, hn, hprev, hrest⟩ := hl.suffix
  exact ⟨n, hn, hprev, hrest.head⟩

/-- No node comes twice: what follows its second occurrence would be as long as what
follows the first. -/
theorem Linked.nodup (hl : Linked h prev p as) : as.Nodup := by
  induction as generalizing prev p with
  | nil => exact List.nodup_nil
  | cons a as ih =>
      have hl0 := hl
      obtain ⟨-, n, hn, -, hrest⟩ := hl
      rw [List.nodup_cons]
      refine ⟨fun ha => ?_, ih hrest⟩
      obtain ⟨xs, ys, rfl⟩ := List.append_of_mem ha
      have hagain := hrest.suffix
      have hp := hl0.1
      rw [hp] at hl0
      have hlength := congrArg List.length (hl0.unique hagain)
      simp only [List.length_cons, List.length_append] at hlength
      omega

/-! ## Changing the list -/

/-- The first node may point back to anything. -/
theorem Linked.relink {prev' : Ptr} (hl : Linked h prev p as)
    (hfirst : ∀ b n, as.head? = some b → h b = some n → h' b = some { n with prev := prev' })
    (hsame : ∀ a ∈ as.tail, h' a = h a) : Linked h' prev' p as := by
  cases as with
  | nil => exact hl
  | cons b as =>
      obtain ⟨hp, n, hn, -, hrest⟩ := hl
      exact ⟨hp, { n with prev := prev' }, hfirst b n rfl hn, rfl, hrest.congr hsame⟩

/-- A new node before the first. -/
theorem Linked.push {d : D} (hl : Linked h none p as) (hnew : h' a = some ⟨d, none, p⟩)
    (hfirst : ∀ b n, as.head? = some b → h b = some n → h' b = some { n with prev := some a })
    (hsame : ∀ a ∈ as.tail, h' a = h a) : Linked h' none (some a) (a :: as) :=
  ⟨rfl, ⟨d, none, p⟩, hnew, rfl, hl.relink hfirst hsame⟩

/-- What the removal of `n` makes of another node: its neighbours point past it. -/
def bridge (n : Node D) (c : Nat) (m : Node D) : Node D where
  data := m.data
  prev := if n.next = some c then n.prev else m.prev
  next := if n.prev = some c then n.next else m.next

theorem bridge_of_ne {c : Nat} {m : Node D} (hprev : n.prev ≠ some c) (hnext : n.next ≠ some c) :
    bridge n c m = m := by
  unfold bridge
  rw [if_neg hnext, if_neg hprev]

theorem Linked.unlink (hl : Linked h prev p (xs ++ a :: ys)) (hn : h a = some n)
    (hout : ∀ q, prev = some q → q ∉ xs ++ a :: ys)
    (hbridge : ∀ c ∈ xs ++ ys, h' c = (h c).map (bridge n c)) :
    Linked h' prev (if xs = [] then n.next else p) (xs ++ ys) := by
  have hnodup := hl.nodup
  induction xs generalizing prev p with
  | nil =>
      obtain ⟨-, m, hm, hprev, hrest⟩ := hl
      obtain rfl : m = n := Option.some.inj (hm.symm.trans hn)
      rw [if_pos rfl]
      have hhead := hrest.head
      have hys : ys.Nodup := (List.nodup_cons.mp hnodup).2
      have hoff : ∀ c ∈ ys, m.prev ≠ some c := by
        intro c hc heq
        exact hout c (hprev.symm.trans heq) (List.mem_cons_of_mem _ hc)
      refine hrest.relink (fun b k hb hk => ?_) fun c hc => ?_
      · have hmem : b ∈ ys := List.mem_of_mem_head? hb
        rw [hbridge b hmem, hk, Option.map_some]
        unfold bridge
        rw [if_pos (hhead.trans hb), if_neg (hoff b hmem), hprev]
      · have hmem : c ∈ ys := List.mem_of_mem_tail hc
        have hne : m.next ≠ some c := by
          rw [hhead]
          intro heq
          cases ys with
          | nil => exact absurd hc List.not_mem_nil
          | cons y ys =>
              obtain rfl : y = c := Option.some.inj heq
              exact (List.nodup_cons.mp hys).1 hc
        rw [hbridge c hmem]
        cases h c with
        | none => rfl
        | some k => rw [Option.map_some, bridge_of_ne (hoff c hmem) hne]
  | cons x xs ih =>
      obtain ⟨k, hk, hkprev, hknext⟩ := hl.node
      obtain rfl : k = n := Option.some.inj (hk.symm.trans hn)
      obtain ⟨hp, m, hm, hprev, hrest⟩ := hl
      have hx : x ∉ xs ++ a :: ys := (List.nodup_cons.mp hnodup).1
      have hrest' := ih hrest (fun q hq => (Option.some.inj hq) ▸ hx)
        (fun c hc => hbridge c (List.mem_cons_of_mem _ hc)) (List.nodup_cons.mp hnodup).2
      have hnext : k.next ≠ some x := by
        rw [hknext]
        intro heq
        have hmem : x ∈ ys := List.mem_of_mem_head? heq
        exact hx (List.mem_append_right _ (List.mem_cons_of_mem _ hmem))
      have hself : h' x = some (bridge k x m) := by
        rw [hbridge x List.mem_cons_self, hm]
        rfl
      rw [if_neg (List.cons_ne_nil _ _)]
      refine ⟨hp, bridge k x m, hself, ?_, ?_⟩
      · unfold bridge
        rw [if_neg hnext]
        exact hprev
      · have hlast : k.prev = some x ↔ xs = [] := by
          rw [hkprev, lastLink_cons]
          refine ⟨fun heq => ?_, fun hnil => hnil ▸ rfl⟩
          by_contra hnil
          obtain ⟨q, hq⟩ := Option.ne_none_iff_exists'.mp (List.getLast?_eq_none_iff.not.mpr hnil)
          unfold lastLink at heq
          rw [hq] at heq
          obtain rfl : q = x := Option.some.inj heq
          exact hx (List.mem_append_left _ (List.mem_of_getLast? hq))
        have hbridged : (bridge k x m).next = if xs = [] then k.next else m.next :=
          if_congr hlast rfl rfl
        rw [hbridged]
        exact hrest'

end Vsftpd.Lib.LinkedList
