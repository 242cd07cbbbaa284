import Vsftpd.HashNodes

/-!
# Runs of the hash table

A table that is only added to, searched and freed from behaves like a finite map, and
its buckets stay linked in both directions.
-/

namespace Vsftpd.HashNodes

open Vsftpd.Lib.LinkedList

variable {K V : Type} [DecidableEq K]

/-! ## A sequence of calls -/

/-- A call; `fresh` is the address at which `malloc()` puts the new node. -/
inductive Op (K V : Type) where
  | add (key : K) (value : V) (fresh : Nat)
  | lookup (key : K)
  | free (key : K)

/-- The call and what it returns. -/
def perform (fuel : Nat) (t : HashTable K V) :
    Op K V → Except Fault (HashTable K V × List (Option V))
  | .add key value fresh => do
    let t' ← hashAddEntry fuel t key value fresh
    return (t', [])
  | .lookup key => do
    let value ← hashLookupEntry fuel t key
    return (t, [value])
  | .free key => do
    let t' ← hashFreeEntry fuel t key
    return (t', [])

def performAll (fuel : Nat) (t : HashTable K V) :
    List (Op K V) → Except Fault (HashTable K V × List (Option V))
  | [] => .ok (t, [])
  | op :: ops => do
    let (t', out) ← perform fuel t op
    let (t'', outs) ← performAll fuel t' ops
    return (t'', out ++ outs)

/-! ## The finite map -/

def Op.onMap (m : K → Option V) : Op K V → K → Option V
  | .add key value _ => Function.update m key (some value)
  | .lookup _ => m
  | .free key => Function.update m key none

def Op.answer (m : K → Option V) : Op K V → List (Option V)
  | .lookup key => [m key]
  | _ => []

def mapAfter (m : K → Option V) (ops : List (Op K V)) : K → Option V := ops.foldl Op.onMap m

def answers (m : K → Option V) : List (Op K V) → List (Option V)
  | [] => []
  | op :: ops => op.answer m ++ answers (op.onMap m) ops

/-- Only absent keys are added, at an address that is free, and only present ones freed. -/
def Op.Allowed (t : HashTable K V) (m : K → Option V) : Op K V → Prop
  | .add key _ fresh => m key = none ∧ t.heap fresh = none
  | .lookup _ => True
  | .free key => m key ≠ none

def AllAllowed (fuel : Nat) : HashTable K V → (K → Option V) → List (Op K V) → Prop
  | _, _, [] => True
  | t, m, op :: ops => op.Allowed t m ∧
    ∀ t' out, perform fuel t op = .ok (t', out) → AllAllowed fuel t' (op.onMap m) ops

/-! ## What holds of the table -/

/-- The node at `a` lies in bucket `b`. -/
def InBucket (t : HashTable K V) (b a : Nat) : Prop :=
  ∃ as, Linked t.heap none (t.nodes b) as ∧ a ∈ as

/-- The table is the map, with one node for each key, in the bucket of the key. -/
structure Refines (fuel : Nat) (t : HashTable K V) (m : K → Option V) : Prop where
  linked : ∀ b, ∃ as, Linked t.heap none (t.nodes b) as
  lookup : ∀ key, hashLookupEntry fuel t key = .ok (m key)
  present : ∀ key value, m key = some value →
    ∃! a, InBucket t (t.hashFunc t.buckets key) a ∧ ∃ v, At t.heap a (key, v)
  node : ∀ b a key value, InBucket t b a → At t.heap a (key, value) →
    b = t.hashFunc t.buckets key ∧ m key = some value

section
variable {heap : Heap (K × V)} {t : HashTable K V} {h : Hash K V} {as : List Nat}
  {entries : List (K × V)}

omit [DecidableEq K] in
theorem addr_eq_of_key (hh : List.Forall₂ (At heap) as entries)
    (hnodup : (entries.map Prod.fst).Nodup) {a a' : Nat} {e e' : K × V} (ha : a ∈ as)
    (ha' : a' ∈ as) (hat : At heap a e) (hat' : At heap a' e') (hkey : e.1 = e'.1) : a = a' := by
  induction hh with
  | nil => exact absurd ha List.not_mem_nil
  | @cons b f as entries hb hrest ih =>
      rw [List.map_cons, List.nodup_cons] at hnodup
      -- no later node has the key of the first
      have hlater {c : Nat} {g : K × V} (hc : c ∈ as) (hg : At heap c g) : g.1 ≠ f.1 := by
        obtain ⟨g', hmem, hg'⟩ := exists_entry hrest hc
        obtain rfl := hg.unique hg'
        exact fun heq => hnodup.1 (heq ▸ List.mem_map_of_mem hmem)
      rcases List.mem_cons.mp ha with rfl | hlate
      · obtain rfl := hat.unique hb
        rcases List.mem_cons.mp ha' with rfl | hlate'
        · rfl
        · exact absurd hkey.symm (hlater hlate' hat')
      · rcases List.mem_cons.mp ha' with rfl | hlate'
        · obtain rfl := hat'.unique hb
          exact absurd hkey (hlater hlate hat)
        · exact ih hnodup.2 hlate hlate'

theorem findNode_of_mem (hnodup : (entries.map Prod.fst).Nodup) {e : K × V} (he : e ∈ entries) :
    findNode e.1 entries = some e := by
  induction entries with
  | nil => exact absurd he List.not_mem_nil
  | cons f entries ih =>
      rw [List.map_cons, List.nodup_cons] at hnodup
      rcases List.mem_cons.mp he with rfl | he
      · exact findNode_cons_self
      · have hne : f.1 ≠ e.1 := fun heq => hnodup.1 (heq ▸ List.mem_map_of_mem he)
        rw [findNode_cons_ne hne]
        exact ih hnodup.2 he

omit [DecidableEq K] in
theorem InBucket.mem {b a : Nat} (ha : InBucket t b a)
    (hb : Bucket t.heap (t.nodes b) entries as) : a ∈ as := by
  obtain ⟨as', hl, hmem⟩ := ha
  rw [hb.linked.unique hl]
  exact hmem

theorem Represents.refines {fuel : Nat} (hr : Represents t h) (hw : h.WellFormed)
    (hfuel : Covers fuel h) : Refines fuel t h.get where
  linked := by
    intro b
    obtain ⟨as, hb⟩ := hr.bucket b
    exact ⟨as, hb.linked⟩
  lookup := lookupEntry_ok hr hw hfuel
  present := by
    intro key value hkey
    rw [hr.hashFunc, hr.buckets]
    rcases getNodeByKey_ok hr hw hfuel key with ⟨hnone, -⟩ | hfound
    · exact absurd (hnone.symm.trans hkey) (by simp)
    obtain ⟨as, xs, a, ys, before, e, behind, hb, hf, -, -⟩ := hfound
    have hmem : a ∈ as := by
      rw [hf.addrs]
      exact List.mem_append_right _ List.mem_cons_self
    have hat : At t.heap a (key, e.2) := by
      rw [← hf.found]
      exact hf.holds
    refine ⟨a, ⟨⟨as, hb.linked, hmem⟩, e.2, hat⟩, ?_⟩
    rintro a' ⟨hin, v, hat'⟩
    exact addr_eq_of_key hb.holds (hw.nodup _) (hin.mem hb) hmem hat' hat rfl
  node := by
    intro b a key value hin hat
    obtain ⟨as, hb⟩ := hr.bucket b
    obtain ⟨e, he, hate⟩ := exists_entry hb.holds (hin.mem hb)
    obtain rfl := hat.unique hate
    have hplace : h.hashFunc h.buckets key = b := hr.placed b (key, value) he
    have hfound : findNode key (h.nodes b) = some (key, value) := findNode_of_mem (hw.nodup b) he
    rw [hr.hashFunc, hr.buckets, Hash.get, hplace, hfound]
    exact ⟨rfl, rfl⟩

/-! ## A step and a run -/

/-- One call of an allowed sequence, which leaves fuel for the others. -/
theorem perform_ok {fuel room : Nat} {op : Op K V} (hr : Represents t h) (hw : h.WellFormed)
    (hroom : ∀ b, (h.nodes b).length + (room + 1) ≤ fuel) (hop : op.Allowed t h.get) :
    ∃ t' h', perform fuel t op = .ok (t', op.answer h.get) ∧ Represents t' h' ∧ h'.WellFormed ∧
      h'.get = op.onMap h.get ∧ ∀ b, (h'.nodes b).length + room ≤ fuel := by
  have hfuel : Covers fuel h := fun b => by
    have hb := hroom b
    omega
  cases op with
  | lookup key =>
      refine ⟨t, h, ?_, hr, hw, rfl, fun b => ?_⟩
      · rw [perform, lookupEntry_ok hr hw hfuel]
        rfl
      · have hb := hroom b
        omega
  | add key value fresh =>
      obtain ⟨t', h', hadd, hadd', hr', hlen⟩ := addEntry_ok (V := V) hr hw hfuel hop.1 hop.2
      obtain ⟨h'', hsame, hw', hget⟩ := hashAddEntry_ok hw value hop.1
      obtain rfl : h' = h'' := Except.ok.inj (hadd'.symm.trans hsame)
      refine ⟨t', h', ?_, hr', hw', ?_, fun b => ?_⟩
      · rw [perform, hadd]
        rfl
      · funext key'
        rw [hget, Op.onMap, Function.update_apply]
      · have hb := hroom b
        have hb' := hlen b
        omega
  | free key =>
      obtain ⟨t', h', hfree, hfree', hr', hlen⟩ := freeEntry_ok hr hw hfuel hop
      obtain ⟨value, hvalue⟩ := Option.ne_none_iff_exists'.mp hop
      obtain ⟨h'', hsame, hw', hget⟩ := hashFreeEntry_ok hw hvalue
      obtain rfl : h' = h'' := Except.ok.inj (hfree'.symm.trans hsame)
      refine ⟨t', h', ?_, hr', hw', ?_, fun b => ?_⟩
      · rw [perform, hfree]
        rfl
      · funext key'
        rw [hget, Op.onMap, Function.update_apply]
      · have hb := hroom b
        have hb' := hlen b
        omega

theorem performAll_ok {fuel : Nat} {ops : List (Op K V)} (hr : Represents t h) (hw : h.WellFormed)
    (hroom : ∀ b, (h.nodes b).length + ops.length ≤ fuel) (hops : AllAllowed fuel t h.get ops) :
    ∃ t', performAll fuel t ops = .ok (t', answers h.get ops) ∧
      Refines fuel t' (mapAfter h.get ops) := by
  induction ops generalizing t h with
  | nil => exact ⟨t, rfl, hr.refines hw hroom⟩
  | cons op ops ih =>
      obtain ⟨t1, h1, hstep, hr1, hw1, hget, hroom1⟩ := perform_ok hr hw hroom hops.1
      have hops1 : AllAllowed fuel t1 h1.get ops := by
        rw [hget]
        exact hops.2 t1 _ hstep
      obtain ⟨t2, hrest, hrefines⟩ := ih hr1 hw1 hroom1 hops1
      rw [hget] at hrest hrefines
      refine ⟨t2, ?_, hrefines⟩
      rw [performAll, hstep]
      show (do
        let (t'', outs) ← performAll fuel t1 ops
        return (t'', op.answer h.get ++ outs)) = _
      rw [hrest]
      rfl

end

omit [DecidableEq K] in
theorem represents_alloc (buckets : Nat) (hashFunc : Nat → K → Nat) :
    Represents (hashAlloc buckets hashFunc : HashTable K V)
      (Vsftpd.hashAlloc buckets hashFunc) where
  buckets := rfl
  hashFunc := rfl
  bucket := fun _ => ⟨[], rfl, .nil⟩
  placed := fun _ _ he => absurd he List.not_mem_nil

/-- Every allowed sequence of calls, from the empty table. -/
theorem performAll_refinesMap (buckets : Nat) (hashFunc : Nat → K → Nat) (fuel : Nat)
    (ops : List (Op K V)) (hbound : ∀ key, hashFunc buckets key < buckets)
    (hfuel : ops.length ≤ fuel)
    (hops : AllAllowed fuel (hashAlloc buckets hashFunc) (fun _ => none) ops) :
    ∃ t, performAll fuel (hashAlloc buckets hashFunc) ops = .ok (t, answers (fun _ => none) ops) ∧
      Refines fuel t (mapAfter (fun _ => none) ops) := by
  have hroom : ∀ b, ((Vsftpd.hashAlloc buckets hashFunc : Hash K V).nodes b).length +
      ops.length ≤ fuel := by
    intro b
    show 0 + ops.length ≤ fuel
    omega
  exact performAll_ok (represents_alloc buckets hashFunc) (hashAlloc_wellFormed hbound) hroom hops

/-! ### A run in one bucket -/

theorem AllAllowed.cons {fuel : Nat} {t t' : HashTable K V} {m : K → Option V} {op : Op K V}
    {ops : List (Op K V)} {out : List (Option V)} (hop : op.Allowed t m)
    (hstep : perform fuel t op = .ok (t', out)) (hrest : AllAllowed fuel t' (op.onMap m) ops) :
    AllAllowed fuel t m (op :: ops) := by
  refine ⟨hop, fun t1 out1 hstep1 => ?_⟩
  obtain ⟨rfl, -⟩ := Prod.mk.inj (Except.ok.inj (hstep.symm.trans hstep1))
  exact hrest

/-- The middle node goes, its address is used again, then the last and the first go. -/
def oneBucketOps : List (Op Nat Nat) :=
  [.add 1 10 5, .add 2 20 7, .add 3 30 6, .free 2, .add 4 40 7, .free 1, .free 4, .lookup 3,
    .lookup 4]

theorem oneBucketOps_allowed :
    AllAllowed 9 (hashAlloc 1 fun _ _ => 0) (fun _ => none) oneBucketOps := by
  refine .cons ⟨rfl, rfl⟩ rfl (.cons ⟨rfl, rfl⟩ rfl (.cons ⟨rfl, rfl⟩ rfl ?_))
  refine .cons (Option.some_ne_none 20) rfl (.cons ⟨rfl, rfl⟩ rfl ?_)
  refine .cons (Option.some_ne_none 10) rfl (.cons (Option.some_ne_none 40) rfl ?_)
  exact .cons trivial rfl (.cons trivial rfl trivial)

theorem performAll_refines_oneBucket :
    ∃ t, performAll 9 (hashAlloc 1 fun _ _ => 0) oneBucketOps = .ok (t, [some 30, none]) ∧
      Refines 9 t (mapAfter (fun _ => none) oneBucketOps) :=
  performAll_refinesMap 1 (fun _ _ => 0) 9 oneBucketOps (fun _ => Nat.one_pos) (by decide)
    oneBucketOps_allowed

end Vsftpd.HashNodes
