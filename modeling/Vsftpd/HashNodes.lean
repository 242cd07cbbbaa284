import Mathlib.Data.List.Forall2
import Vsftpd.Hash
import Vsftpd.Lib.LinkedList

/-!
# The nodes of the hash table

`hash.c` again, with the nodes on a heap: a bucket is a pointer to its first node, and
the nodes point to their neighbours.  It refines the table whose buckets are lists.
-/

namespace Vsftpd.HashNodes

open Vsftpd.Lib.LinkedList

variable {K V : Type}

/-- How a call may fail: by a call of `bug()`, by following a pointer that is null or to
a node that was freed, or by running around in a bucket. -/
inductive Fault where
  | bug (text : String)
  | badPointer
  | endless
  deriving DecidableEq, Repr

/-- `struct hash` and the nodes that are allocated.  Keys and values are copied into the
node, so they are part of it. -/
structure HashTable (K V : Type) where
  buckets : Nat
  hashFunc : Nat → K → Nat
  nodes : Nat → Ptr
  heap : Heap (K × V)

def hashAlloc (buckets : Nat) (hashFunc : Nat → K → Nat) : HashTable K V where
  buckets := buckets
  hashFunc := hashFunc
  nodes := fun _ => none
  heap := fun _ => none

def hashGetBucket (t : HashTable K V) (key : K) : Except Fault Nat :=
  let bucket := t.hashFunc t.buckets key
  if bucket ≥ t.buckets then .error (.bug "bad bucket lookup") else .ok bucket

def readNode (heap : Heap (K × V)) (a : Nat) : Except Fault (Node (K × V)) :=
  match heap a with
  | none => .error .badPointer
  | some n => .ok n

def writeNode (t : HashTable K V) (a : Nat) (f : Node (K × V) → Node (K × V)) :
    Except Fault (HashTable K V) := do
  let n ← readNode t.heap a
  return { t with heap := Function.update t.heap a (some (f n)) }

section
variable [DecidableEq K]

/-- The loop over a bucket. -/
def searchNodes (heap : Heap (K × V)) (key : K) : Nat → Ptr → Except Fault Ptr
  | _, none => .ok none
  | 0, some _ => .error .endless
  | fuel + 1, some a => do
    let n ← readNode heap a
    if n.data.1 = key then .ok (some a) else searchNodes heap key fuel n.next

def hashGetNodeByKey (fuel : Nat) (t : HashTable K V) (key : K) : Except Fault Ptr := do
  let bucket ← hashGetBucket t key
  searchNodes t.heap key fuel (t.nodes bucket)

def hashLookupEntry (fuel : Nat) (t : HashTable K V) (key : K) : Except Fault (Option V) := do
  match ← hashGetNodeByKey fuel t key with
  | none => return none
  | some a => do
    let n ← readNode t.heap a
    return some n.data.2

/-- The new node is linked in before the first of the bucket.  `fresh` is the address
that `malloc()` returns. -/
def hashAddEntry (fuel : Nat) (t : HashTable K V) (key : K) (value : V) (fresh : Nat) :
    Except Fault (HashTable K V) := do
  if (← hashLookupEntry fuel t key).isSome then .error (.bug "duplicate hash key")
  let bucket ← hashGetBucket t key
  match t.nodes bucket with
  | none =>
    return { t with
      heap := Function.update t.heap fresh (some ⟨(key, value), none, none⟩)
      nodes := Function.update t.nodes bucket (some fresh) }
  | some first => do
    let t1 := { t with
      heap := Function.update t.heap fresh (some ⟨(key, value), none, some first⟩) }
    let t2 ← writeNode t1 first fun n => { n with prev := some fresh }
    return { t2 with nodes := Function.update t2.nodes bucket (some fresh) }

/-- The pointer to `node`, in the node before it or in the bucket, is set to the node
behind it. -/
def unlinkForward (t : HashTable K V) (key : K) (node : Node (K × V)) :
    Except Fault (HashTable K V) :=
  match node.prev with
  | some q => writeNode t q fun n => { n with next := node.next }
  | none => do
    let bucket ← hashGetBucket t key
    return { t with nodes := Function.update t.nodes bucket node.next }

def unlinkBackward (t : HashTable K V) (node : Node (K × V)) : Except Fault (HashTable K V) :=
  match node.next with
  | some r => writeNode t r fun n => { n with prev := node.prev }
  | none => return t

def hashFreeEntry (fuel : Nat) (t : HashTable K V) (key : K) : Except Fault (HashTable K V) := do
  match ← hashGetNodeByKey fuel t key with
  | none => .error (.bug "hash node not found")
  | some a => do
    let node ← readNode t.heap a
    let t1 ← unlinkForward t key node
    let t2 ← unlinkBackward t1 node
    return { t2 with heap := Function.update t2.heap a none }

end

/-! ## The lists behind the pointers -/

/-- The node at an address holds an entry. -/
def At (heap : Heap (K × V)) (a : Nat) (e : K × V) : Prop := ∃ n, heap a = some n ∧ n.data = e

/-- The nodes from `p` on are linked and hold the entries of a bucket, in its order. -/
structure Bucket (heap : Heap (K × V)) (p : Ptr) (entries : List (K × V)) (as : List Nat) :
    Prop where
  linked : Linked heap none p as
  holds : List.Forall₂ (At heap) as entries

/-- The table of nodes stands for the table of lists. -/
structure Represents (t : HashTable K V) (h : Hash K V) : Prop where
  buckets : t.buckets = h.buckets
  hashFunc : t.hashFunc = h.hashFunc
  bucket : ∀ b, ∃ as, Bucket t.heap (t.nodes b) (h.nodes b) as
  placed : ∀ b, ∀ e ∈ h.nodes b, h.hashFunc h.buckets e.1 = b

section
variable {heap heap' : Heap (K × V)} {t : HashTable K V} {h : Hash K V} {key : K} {value : V}
  {p : Ptr} {as xs ys : List Nat} {entries : List (K × V)}

theorem At.unique {a : Nat} {e e' : K × V} (hat : At heap a e) (hat' : At heap a e') : e = e' := by
  obtain ⟨n, hn, rfl⟩ := hat
  obtain ⟨n', hn', rfl⟩ := hat'
  obtain rfl : n = n' := Option.some.inj (hn.symm.trans hn')
  rfl

/-- Entries stay while the links change. -/
theorem holds_congr (hh : List.Forall₂ (At heap) as entries)
    (hdata : ∀ a ∈ as, ∀ n, heap a = some n → At heap' a n.data) :
    List.Forall₂ (At heap') as entries := by
  induction hh with
  | nil => exact .nil
  | cons hat hrest ih =>
      obtain ⟨n, hn, rfl⟩ := hat
      refine .cons (hdata _ List.mem_cons_self n hn) (ih fun a ha => ?_)
      exact hdata a (List.mem_cons_of_mem _ ha)

theorem exists_entry (h : List.Forall₂ (At heap) as entries) {a : Nat} (ha : a ∈ as) :
    ∃ e ∈ entries, At heap a e := by
  induction h with
  | nil => exact absurd ha List.not_mem_nil
  | cons hat hrest ih =>
      rcases List.mem_cons.mp ha with rfl | ha
      · exact ⟨_, List.mem_cons_self, hat⟩
      · obtain ⟨e, he, hae⟩ := ih ha
        exact ⟨e, List.mem_cons_of_mem _ he, hae⟩

theorem Bucket.congr (hb : Bucket heap p entries as) (hsame : ∀ a ∈ as, heap' a = heap a) :
    Bucket heap' p entries as where
  linked := hb.linked.congr hsame
  holds := holds_congr hb.holds fun a ha n hn => ⟨n, (hsame a ha).trans hn, rfl⟩

/-- A node is in the bucket of its key only. -/
theorem Represents.bucket_eq (hr : Represents t h) {b b' a : Nat} {as as' : List Nat}
    (hb : Bucket t.heap (t.nodes b) (h.nodes b) as)
    (hb' : Bucket t.heap (t.nodes b') (h.nodes b') as') (ha : a ∈ as) (ha' : a ∈ as') : b = b' := by
  obtain ⟨e, he, hat⟩ := exists_entry hb.holds ha
  obtain ⟨e', he', hat'⟩ := exists_entry hb'.holds ha'
  obtain rfl := hat.unique hat'
  exact (hr.placed b e he).symm.trans (hr.placed b' e he')

theorem getBucket_ok (hr : Represents t h) (hw : h.WellFormed) (key : K) :
    hashGetBucket t key = .ok (h.hashFunc h.buckets key) := by
  have hlt := hw.bound key
  unfold hashGetBucket
  rw [hr.buckets, hr.hashFunc, if_neg (Nat.not_le.mpr hlt)]

theorem readNode_ok {a : Nat} {n : Node (K × V)} (hn : heap a = some n) :
    readNode heap a = .ok n := by
  unfold readNode
  rw [hn]

/-! ## Searching -/

/-- Where a key is: the entries before it have other keys. -/
structure FoundAt (heap : Heap (K × V)) (key : K) (as : List Nat) (entries : List (K × V))
    (xs : List Nat) (a : Nat) (ys : List Nat) (before : List (K × V)) (e : K × V)
    (behind : List (K × V)) : Prop where
  addrs : as = xs ++ a :: ys
  split : entries = before ++ e :: behind
  found : e.1 = key
  other : ∀ e' ∈ before, e'.1 ≠ key
  holdsBefore : List.Forall₂ (At heap) xs before
  holds : At heap a e
  holdsBehind : List.Forall₂ (At heap) ys behind

variable [DecidableEq K]

theorem FoundAt.findNode {a : Nat} {before behind : List (K × V)} {e : K × V}
    (hf : FoundAt heap key as entries xs a ys before e behind) : findNode key entries = some e := by
  have hnone : before.find? (fun n => n.1 = key) = none :=
    List.find?_eq_none.mpr fun e' he' => by simpa using hf.other e' he'
  unfold Vsftpd.findNode
  rw [hf.split, List.find?_append, hnone, Option.none_or, List.find?_cons_of_pos]
  simpa using hf.found

/-- The loop finds the node of the first entry with the key. -/
theorem searchNodes_ok {fuel : Nat} {prev : Ptr} (hl : Linked heap prev p as)
    (hh : List.Forall₂ (At heap) as entries) (hfuel : as.length ≤ fuel) :
    (findNode key entries = none ∧ searchNodes heap key fuel p = .ok none) ∨
      ∃ xs a ys before e behind, FoundAt heap key as entries xs a ys before e behind ∧
        searchNodes heap key fuel p = .ok (some a) := by
  induction hh generalizing prev p fuel with
  | nil =>
      have hnull : p = none := hl
      rw [hnull]
      exact .inl ⟨rfl, by cases fuel <;> rfl⟩
  | @cons a e as entries hat hrest ih =>
      obtain ⟨hp, n, hn, -, hnext⟩ := hl
      obtain ⟨n', hn', hdata⟩ := id hat
      obtain rfl : n = n' := Option.some.inj (hn.symm.trans hn')
      cases fuel with
      | zero => exact absurd hfuel (by simp)
      | succ fuel =>
          have hstep : searchNodes heap key (fuel + 1) p =
              if e.1 = key then .ok (some a) else searchNodes heap key fuel n.next := by
            rw [hp, ← hdata, searchNodes, readNode_ok hn]
            rfl
          rw [hstep]
          by_cases hkey : e.1 = key
          · rw [if_pos hkey]
            exact .inr ⟨[], a, as, [], e, entries, ⟨rfl, rfl, hkey, by simp, .nil, hat, hrest⟩, rfl⟩
          · rw [if_neg hkey, findNode_cons_ne hkey]
            have hlen : as.length ≤ fuel := Nat.le_of_succ_le_succ hfuel
            rcases ih hnext hlen with hnone | ⟨xs, b, ys, before, e', behind, hf, hsearch⟩
            · exact .inl hnone
            · refine .inr ⟨a :: xs, b, ys, e :: before, e', behind, ?_, hsearch⟩
              exact
                { addrs := congrArg (a :: ·) hf.addrs
                  split := congrArg (e :: ·) hf.split
                  found := hf.found
                  other := List.forall_mem_cons.mpr ⟨hkey, hf.other⟩
                  holdsBefore := .cons hat hf.holdsBefore
                  holds := hf.holds
                  holdsBehind := hf.holdsBehind }

/-- The fuel covers every bucket. -/
def Covers (fuel : Nat) (h : Hash K V) : Prop := ∀ b, (h.nodes b).length ≤ fuel

theorem getNodeByKey_ok {fuel : Nat} (hr : Represents t h) (hw : h.WellFormed)
    (hfuel : Covers fuel h) (key : K) :
    (h.get key = none ∧ hashGetNodeByKey fuel t key = .ok none) ∨
      ∃ as xs a ys before e behind,
        Bucket t.heap (t.nodes (h.hashFunc h.buckets key)) (h.nodes (h.hashFunc h.buckets key)) as ∧
        FoundAt t.heap key as (h.nodes (h.hashFunc h.buckets key)) xs a ys before e behind ∧
        h.get key = some e.2 ∧ hashGetNodeByKey fuel t key = .ok (some a) := by
  obtain ⟨as, hb⟩ := hr.bucket (h.hashFunc h.buckets key)
  have hlen : as.length ≤ fuel := hb.holds.length_eq ▸ hfuel (h.hashFunc h.buckets key)
  have hget : hashGetNodeByKey fuel t key =
      searchNodes t.heap key fuel (t.nodes (h.hashFunc h.buckets key)) := by
    rw [hashGetNodeByKey, getBucket_ok hr hw]
    rfl
  rw [hget]
  rcases searchNodes_ok hb.linked hb.holds hlen with ⟨hnone, hsearch⟩ | hfound
  · refine .inl ⟨?_, hsearch⟩
    rw [Hash.get, hnone]
    rfl
  · obtain ⟨xs, a, ys, before, e, behind, hf, hsearch⟩ := hfound
    refine .inr ⟨as, xs, a, ys, before, e, behind, hb, hf, ?_, hsearch⟩
    rw [Hash.get, hf.findNode]
    rfl

theorem lookupEntry_ok {fuel : Nat} (hr : Represents t h) (hw : h.WellFormed)
    (hfuel : Covers fuel h) (key : K) : hashLookupEntry fuel t key = .ok (h.get key) := by
  rw [hashLookupEntry]
  rcases getNodeByKey_ok hr hw hfuel key with ⟨hnone, hsearch⟩ | hfound
  · rw [hsearch, hnone]
    rfl
  · obtain ⟨as, xs, a, ys, before, e, behind, -, hf, hget, hsearch⟩ := hfound
    obtain ⟨n, hn, hdata⟩ := hf.holds
    rw [hsearch, hget, ← hdata]
    show (do
      let n ← readNode t.heap a
      return some n.data.2) = _
    rw [readNode_ok hn]
    rfl

/-! ## Changing a bucket -/

omit [DecidableEq K] in
/-- A bucket is replaced and the nodes of the others stay as they were. -/
theorem Represents.setBucket {t' : HashTable K V} {b : Nat} {as' : List Nat} (hr : Represents t h)
    (hbuckets : t'.buckets = t.buckets) (hhash : t'.hashFunc = t.hashFunc)
    (hnew : Bucket t'.heap (t'.nodes b) entries as')
    (hplaced : ∀ e ∈ entries, h.hashFunc h.buckets e.1 = b)
    (hheads : ∀ b' ≠ b, t'.nodes b' = t.nodes b')
    (hframe : ∀ b' ≠ b, ∀ as, Bucket t.heap (t.nodes b') (h.nodes b') as →
      ∀ a ∈ as, t'.heap a = t.heap a) :
    Represents t' (setBucket h b entries) where
  buckets := hbuckets.trans hr.buckets
  hashFunc := hhash.trans hr.hashFunc
  bucket := by
    intro b'
    unfold Vsftpd.setBucket
    dsimp only
    by_cases hb : b' = b
    · subst hb
      rw [if_pos rfl]
      exact ⟨as', hnew⟩
    · obtain ⟨as, has⟩ := hr.bucket b'
      rw [if_neg hb, hheads b' hb]
      exact ⟨as, has.congr (hframe b' hb as has)⟩
  placed := by
    intro b' e he
    unfold Vsftpd.setBucket at he ⊢
    dsimp only at he ⊢
    by_cases hb : b' = b
    · rw [if_pos hb] at he
      rw [hb]
      exact hplaced e he
    · rw [if_neg hb] at he
      exact hr.placed b' e he

/-! ### Adding -/

/-- What `hash_add_entry` does to the heap: a new node, and a back link to it. -/
structure Added (t t' : HashTable K V) (b : Nat) (e : K × V) (fresh : Nat) : Prop where
  buckets : t'.buckets = t.buckets
  hashFunc : t'.hashFunc = t.hashFunc
  nodes : t'.nodes = Function.update t.nodes b (some fresh)
  new : t'.heap fresh = some ⟨e, none, t.nodes b⟩
  first : ∀ c n, t.nodes b = some c → t.heap c = some n →
    t'.heap c = some { n with prev := some fresh }
  same : ∀ c, c ≠ fresh → t.nodes b ≠ some c → t'.heap c = t.heap c

theorem addEntry_added {fuel fresh : Nat} (hr : Represents t h) (hw : h.WellFormed)
    (hfuel : Covers fuel h) (hkey : h.get key = none) (hfresh : t.heap fresh = none) :
    ∃ t', hashAddEntry fuel t key value fresh = .ok t' ∧
      Added t t' (h.hashFunc h.buckets key) (key, value) fresh := by
  obtain ⟨as, hb⟩ := hr.bucket (h.hashFunc h.buckets key)
  rw [hashAddEntry, lookupEntry_ok hr hw hfuel, hkey, getBucket_ok hr hw]
  show ∃ t', (match t.nodes (h.hashFunc h.buckets key) with
    | none => _
    | some first => _) = Except.ok t' ∧ _
  cases hhead : t.nodes (h.hashFunc h.buckets key) with
  | none =>
      refine ⟨_, rfl, rfl, rfl, rfl, ?_, ?_, ?_⟩
      · rw [hhead]
        exact Function.update_self ..
      · intro c n hc
        exact absurd (hhead.symm.trans hc) (by simp)
      · intro c hc _
        exact Function.update_of_ne hc _ _
  | some first =>
      have hl := hb.linked
      have hmem : first ∈ as := List.mem_of_mem_head? (hl.head.symm.trans hhead)
      obtain ⟨n, hn⟩ := hl.live hmem
      have hne : first ≠ fresh := by
        intro heq
        rw [heq, hfresh] at hn
        exact absurd hn (by simp)
      have hread : Function.update t.heap fresh (some ⟨(key, value), none, some first⟩) first =
          some n := (Function.update_of_ne hne _ _).trans hn
      dsimp only [writeNode]
      rw [readNode_ok hread]
      refine ⟨_, rfl, rfl, rfl, rfl, ?_, ?_, ?_⟩
      · rw [hhead]
        exact (Function.update_of_ne hne.symm _ _).trans (Function.update_self ..)
      · intro c m hc hm
        obtain rfl : first = c := Option.some.inj (hhead.symm.trans hc)
        obtain rfl : n = m := Option.some.inj (hn.symm.trans hm)
        exact Function.update_self ..
      · intro c hc hfirst
        have hcf : c ≠ first := fun heq => hfirst (heq ▸ hhead)
        exact (Function.update_of_ne hcf _ _).trans (Function.update_of_ne hc _ _)

omit [DecidableEq K] in
theorem Added.bucket {t' : HashTable K V} {b fresh : Nat} {e : K × V}
    (hadd : Added t t' b e fresh) (hfresh : t.heap fresh = none)
    (hb : Bucket t.heap (t.nodes b) entries as) :
    Bucket t'.heap (t'.nodes b) (e :: entries) (fresh :: as) := by
  have hl := hb.linked
  have hne : ∀ a ∈ as, a ≠ fresh := by
    rintro a ha rfl
    obtain ⟨n, hn⟩ := hl.live ha
    exact absurd (hfresh.symm.trans hn) (by simp)
  have hhead : t'.nodes b = some fresh := by
    rw [hadd.nodes]
    exact Function.update_self ..
  constructor
  · rw [hhead]
    refine hl.push hadd.new (fun c n hc hn => ?_) fun a ha => ?_
    · exact hadd.first c n (hl.head.trans hc) hn
    · refine hadd.same a (hne a (List.mem_of_mem_tail ha)) fun heq => ?_
      have hnodup := hl.nodup
      rw [hl.head] at heq
      cases as with
      | nil => exact absurd ha List.not_mem_nil
      | cons c as =>
          obtain rfl : c = a := Option.some.inj heq
          exact (List.nodup_cons.mp hnodup).1 ha
  · refine .cons ⟨_, hadd.new, rfl⟩ (holds_congr hb.holds fun a ha n hn => ?_)
    by_cases hfirst : t.nodes b = some a
    · exact ⟨_, hadd.first a n hfirst hn, rfl⟩
    · exact ⟨n, (hadd.same a (hne a ha) hfirst).trans hn, rfl⟩

omit [DecidableEq K] in
theorem length_setBucket_le {b k : Nat} (hlen : entries.length ≤ (h.nodes b).length + k)
    (b' : Nat) : ((Vsftpd.setBucket h b entries).nodes b').length ≤ (h.nodes b').length + k := by
  unfold Vsftpd.setBucket
  dsimp only
  by_cases hb : b' = b
  · rw [if_pos hb, hb]
    exact hlen
  · rw [if_neg hb]
    exact Nat.le_add_right _ _

theorem addEntry_ok {fuel fresh : Nat} (hr : Represents t h) (hw : h.WellFormed)
    (hfuel : Covers fuel h) (hkey : h.get key = none) (hfresh : t.heap fresh = none) :
    ∃ t' h', hashAddEntry fuel t key value fresh = .ok t' ∧
      Vsftpd.hashAddEntry h key value = .ok h' ∧ Represents t' h' ∧
      ∀ b, (h'.nodes b).length ≤ (h.nodes b).length + 1 := by
  obtain ⟨t', hadd, hadded⟩ : ∃ t', hashAddEntry fuel t key value fresh = .ok t' ∧
      Added t t' (h.hashFunc h.buckets key) (key, value) fresh :=
    addEntry_added hr hw hfuel hkey hfresh
  obtain ⟨as, hb⟩ := hr.bucket (h.hashFunc h.buckets key)
  refine ⟨t', setBucket h (h.hashFunc h.buckets key)
    ((key, value) :: h.nodes (h.hashFunc h.buckets key)), hadd, ?_, ?_,
    length_setBucket_le (Nat.le_refl _)⟩
  · rw [Vsftpd.hashAddEntry, hashLookupEntry_ok hw, hkey, hashGetBucket_ok hw]
    rfl
  refine hr.setBucket hadded.buckets hadded.hashFunc (hadded.bucket hfresh hb) ?_ ?_ ?_
  · exact List.forall_mem_cons.mpr ⟨rfl, hr.placed (h.hashFunc h.buckets key)⟩
  · intro b hne
    rw [hadded.nodes]
    exact Function.update_of_ne hne _ _
  · intro b hne bs hbs a ha
    obtain ⟨n, hn⟩ := hbs.linked.live ha
    refine hadded.same a (fun heq => ?_) fun hfirst => ?_
    · rw [heq, hfresh] at hn
      exact absurd hn (by simp)
    · have hmem : a ∈ as := List.mem_of_mem_head? (hb.linked.head.symm.trans hfirst)
      exact hne (hr.bucket_eq hbs hb ha hmem)

/-! ### Freeing -/

/-- What `hash_free_entry` does to the heap: the node is gone and its neighbours point
past it. -/
structure Removed (t t' : HashTable K V) (b a : Nat) (n : Node (K × V)) : Prop where
  buckets : t'.buckets = t.buckets
  hashFunc : t'.hashFunc = t.hashFunc
  nodes : t'.nodes = if n.prev = none then Function.update t.nodes b n.next else t.nodes
  bridged : ∀ c, c ≠ a → t'.heap c = (t.heap c).map (bridge n c)

omit [DecidableEq K] in
theorem writeNode_ok {q : Nat} {m : Node (K × V)} {f : Node (K × V) → Node (K × V)}
    (hm : t.heap q = some m) :
    ∃ t', writeNode t q f = .ok t' ∧ t'.buckets = t.buckets ∧ t'.hashFunc = t.hashFunc ∧
      t'.nodes = t.nodes ∧
      ∀ c, t'.heap c = (t.heap c).map fun m => if c = q then f m else m := by
  rw [writeNode, readNode_ok hm]
  refine ⟨_, rfl, rfl, rfl, rfl, fun c => ?_⟩
  by_cases hc : c = q
  · subst hc
    rw [hm, Option.map_some, if_pos rfl]
    exact Function.update_self ..
  · simp only [if_neg hc]
    exact (Function.update_of_ne hc _ _).trans Option.map_id'.symm

omit [DecidableEq K] in
theorem unlinkForward_ok {n : Node (K × V)} (hr : Represents t h) (hw : h.WellFormed)
    (hprev : ∀ q, n.prev = some q → ∃ m, t.heap q = some m) :
    ∃ t', unlinkForward t key n = .ok t' ∧ t'.buckets = t.buckets ∧ t'.hashFunc = t.hashFunc ∧
      t'.nodes = (if n.prev = none then
        Function.update t.nodes (h.hashFunc h.buckets key) n.next else t.nodes) ∧
      ∀ c, t'.heap c =
        (t.heap c).map fun m => { m with next := if n.prev = some c then n.next else m.next } := by
  unfold unlinkForward
  cases hq : n.prev with
  | none =>
      rw [getBucket_ok hr hw]
      exact ⟨_, rfl, rfl, rfl, rfl, fun c => Option.map_id'.symm⟩
  | some q =>
      obtain ⟨m, hm⟩ := hprev q hq
      obtain ⟨t', hwrite, hbuckets, hhash, hnodes, hheap⟩ :=
        writeNode_ok (f := fun m => { m with next := n.next }) hm
      refine ⟨t', hwrite, hbuckets, hhash, hnodes, fun c => (hheap c).trans ?_⟩
      refine congrArg (fun g => (t.heap c).map g) (funext fun m => ?_)
      by_cases hc : c = q
      · subst hc
        rw [if_pos rfl, if_pos rfl]
      · rw [if_neg hc, if_neg fun heq => hc (Option.some.inj heq).symm]

omit [DecidableEq K] in
theorem unlinkBackward_ok {n : Node (K × V)}
    (hnext : ∀ r, n.next = some r → ∃ m, t.heap r = some m) :
    ∃ t', unlinkBackward t n = .ok t' ∧ t'.buckets = t.buckets ∧ t'.hashFunc = t.hashFunc ∧
      t'.nodes = t.nodes ∧
      ∀ c, t'.heap c =
        (t.heap c).map fun m => { m with prev := if n.next = some c then n.prev else m.prev } := by
  unfold unlinkBackward
  cases hq : n.next with
  | none => exact ⟨_, rfl, rfl, rfl, rfl, fun c => Option.map_id'.symm⟩
  | some r =>
      obtain ⟨m, hm⟩ := hnext r hq
      obtain ⟨t', hwrite, hbuckets, hhash, hnodes, hheap⟩ :=
        writeNode_ok (f := fun m => { m with prev := n.prev }) hm
      refine ⟨t', hwrite, hbuckets, hhash, hnodes, fun c => (hheap c).trans ?_⟩
      refine congrArg (fun g => (t.heap c).map g) (funext fun m => ?_)
      by_cases hc : c = r
      · subst hc
        rw [if_pos rfl, if_pos rfl]
      · rw [if_neg hc, if_neg fun heq => hc (Option.some.inj heq).symm]

/-- The node that the search finds is unlinked and freed. -/
theorem freeEntry_removed {fuel a : Nat} {n : Node (K × V)} (hr : Represents t h)
    (hw : h.WellFormed) (hsearch : hashGetNodeByKey fuel t key = .ok (some a))
    (hn : t.heap a = some n) (hprev : ∀ q, n.prev = some q → ∃ m, t.heap q = some m)
    (hnext : ∀ r, n.next = some r → ∃ m, t.heap r = some m) :
    ∃ t', hashFreeEntry fuel t key = .ok t' ∧
      Removed t t' (h.hashFunc h.buckets key) a n := by
  obtain ⟨t1, hforward, hbuckets1, hhash1, hnodes1, hheap1⟩ :=
    @unlinkForward_ok _ _ t h key n hr hw hprev
  have hnext1 : ∀ r, n.next = some r → ∃ m, t1.heap r = some m := by
    intro r hnr
    obtain ⟨m, hm⟩ := hnext r hnr
    rw [hheap1, hm]
    exact ⟨_, rfl⟩
  obtain ⟨t2, hbackward, hbuckets2, hhash2, hnodes2, hheap2⟩ := unlinkBackward_ok hnext1
  have hfree : hashFreeEntry fuel t key =
      .ok { t2 with heap := Function.update t2.heap a none } := by
    rw [hashFreeEntry, hsearch]
    show (do
      let node ← readNode t.heap a
      let t1 ← unlinkForward t key node
      let t2 ← unlinkBackward t1 node
      return { t2 with heap := Function.update t2.heap a none }) = _
    rw [readNode_ok hn]
    show (do
      let t1 ← unlinkForward t key n
      let t2 ← unlinkBackward t1 n
      return { t2 with heap := Function.update t2.heap a none }) = _
    rw [hforward]
    show (do
      let t2 ← unlinkBackward t1 n
      return { t2 with heap := Function.update t2.heap a none }) = _
    rw [hbackward]
    rfl
  refine ⟨_, hfree, hbuckets2.trans hbuckets1, hhash2.trans hhash1, hnodes2.trans hnodes1,
    fun c hc => ?_⟩
  calc Function.update t2.heap a none c = t2.heap c := Function.update_of_ne hc _ _
    _ = (t.heap c).map (bridge n c) := by
      rw [hheap2, hheap1, Option.map_map]
      rfl

theorem FoundAt.eraseP {a : Nat} {before behind : List (K × V)} {e : K × V}
    (hf : FoundAt heap key as entries xs a ys before e behind) :
    (entries.eraseP fun n => n.1 = key) = before ++ behind := by
  have hother : ∀ e' ∈ before, ¬ (decide (e'.1 = key)) = true := by
    intro e' he'
    simpa using hf.other e' he'
  rw [hf.split, List.eraseP_append_right _ hother, List.eraseP_cons_of_pos]
  simpa using hf.found

omit [DecidableEq K] in
theorem Removed.bucket {t' : HashTable K V} {b a : Nat} {n : Node (K × V)}
    {before behind : List (K × V)} {e : K × V} (hrem : Removed t t' b a n)
    (hb : Bucket t.heap (t.nodes b) entries as)
    (hf : FoundAt t.heap key as entries xs a ys before e behind) (hn : t.heap a = some n) :
    Bucket t'.heap (t'.nodes b) (before ++ behind) (xs ++ ys) := by
  have hl := hb.linked
  rw [hf.addrs] at hl
  have hnodup := hl.nodup
  obtain ⟨m, hm, hprev, -⟩ := hl.node
  obtain rfl : n = m := Option.some.inj (hn.symm.trans hm)
  have hne : ∀ c ∈ xs ++ ys, c ≠ a := by
    rintro c hc rfl
    rw [List.nodup_middle, List.nodup_cons] at hnodup
    exact hnodup.1 hc
  have hhead : t'.nodes b = if xs = [] then n.next else t.nodes b := by
    have hfirst : n.prev = none ↔ xs = [] := by
      rw [hprev, lastLink, Option.or_none, List.getLast?_eq_none_iff]
    rw [hrem.nodes]
    by_cases hxs : xs = []
    · rw [if_pos hxs, if_pos (hfirst.mpr hxs)]
      exact Function.update_self ..
    · rw [if_neg hxs, if_neg fun hnone => hxs (hfirst.mp hnone)]
  constructor
  · rw [hhead]
    exact hl.unlink hn (fun q hq => absurd hq (by simp)) fun c hc => hrem.bridged c (hne c hc)
  · refine holds_congr (List.rel_append hf.holdsBefore hf.holdsBehind) fun c hc m hm => ?_
    refine ⟨bridge n c m, ?_, rfl⟩
    rw [hrem.bridged c (hne c hc), hm]
    rfl

omit [DecidableEq K] in
/-- The neighbours of a node are in its bucket. -/
theorem neighbour_mem {b a : Nat} {n : Node (K × V)} (hb : Linked t.heap none (t.nodes b) as)
    (has : as = xs ++ a :: ys) (hn : t.heap a = some n) {c : Nat}
    (hc : n.prev = some c ∨ n.next = some c) : c ∈ as := by
  rw [has] at hb ⊢
  obtain ⟨m, hm, hprev, hnext⟩ := hb.node
  obtain rfl : n = m := Option.some.inj (hn.symm.trans hm)
  rcases hc with hc | hc
  · rw [hprev, lastLink, Option.or_none] at hc
    exact List.mem_append_left _ (List.mem_of_getLast? hc)
  · rw [hnext] at hc
    exact List.mem_append_right _ (List.mem_cons_of_mem _ (List.mem_of_mem_head? hc))

theorem freeEntry_ok {fuel : Nat} (hr : Represents t h) (hw : h.WellFormed)
    (hfuel : Covers fuel h) (hkey : h.get key ≠ none) :
    ∃ t' h', hashFreeEntry fuel t key = .ok t' ∧
      Vsftpd.hashFreeEntry h key = .ok h' ∧ Represents t' h' ∧
      ∀ b, (h'.nodes b).length ≤ (h.nodes b).length + 0 := by
  rcases getNodeByKey_ok hr hw hfuel key with ⟨hnone, -⟩ | hfound
  · exact absurd hnone hkey
  obtain ⟨as, xs, a, ys, before, e, behind, hb, hf, hget, hsearch⟩ := hfound
  have hmem : a ∈ as := by
    rw [hf.addrs]
    exact List.mem_append_right _ List.mem_cons_self
  obtain ⟨n, hn⟩ := hb.linked.live hmem
  have hnear {c : Nat} (hc : n.prev = some c ∨ n.next = some c) : c ∈ as :=
    neighbour_mem hb.linked hf.addrs hn hc
  obtain ⟨t', hfree, hrem⟩ := freeEntry_removed hr hw hsearch hn
    (fun q hq => hb.linked.live (hnear (.inl hq))) fun r hq => hb.linked.live (hnear (.inr hq))
  refine ⟨t', setBucket h (h.hashFunc h.buckets key)
    ((h.nodes (h.hashFunc h.buckets key)).eraseP fun n => n.1 = key), hfree, ?_, ?_,
    length_setBucket_le List.eraseP_sublist.length_le⟩
  · rw [Vsftpd.hashFreeEntry, hashGetNodeByKey_ok hw, hf.findNode, hashGetBucket_ok hw]
    rfl
  rw [hf.eraseP]
  refine hr.setBucket hrem.buckets hrem.hashFunc (hrem.bucket hb hf hn) ?_ ?_ ?_
  · intro e' he'
    refine hr.placed _ e' ?_
    rw [hf.split]
    rcases List.mem_append.mp he' with he' | he'
    · exact List.mem_append_left _ he'
    · exact List.mem_append_right _ (List.mem_cons_of_mem _ he')
  · intro b hne
    rw [hrem.nodes]
    split_ifs
    · exact Function.update_of_ne hne _ _
    · rfl
  · intro b hne bs hbs c hc
    have hout : c ∉ as := fun hmem => hne (hr.bucket_eq hbs hb hc hmem)
    have hca : c ≠ a := fun heq => hout (heq ▸ hmem)
    obtain ⟨m, hm⟩ := hbs.linked.live hc
    rw [hrem.bridged c hca, hm, Option.map_some,
      bridge_of_ne (fun heq => hout (hnear (.inl heq))) fun heq => hout (hnear (.inr heq))]

end

end Vsftpd.HashNodes
