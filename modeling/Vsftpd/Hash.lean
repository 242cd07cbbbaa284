import Mathlib.Data.List.Nodup

/-!
# The hash table of `hash.c`

A bucket is the list its nodes are linked into; a new node goes to the front.
An error is a call of `bug()` with that text.  `get` is the finite map a table
stands for, and each operation is specified by what it does to `get`.
-/

namespace Vsftpd

variable {K V : Type} [DecidableEq K]

structure Hash (K V : Type) where
  buckets : Nat
  hashFunc : Nat → K → Nat
  nodes : Nat → List (K × V)

def hashAlloc (buckets : Nat) (hashFunc : Nat → K → Nat) : Hash K V where
  buckets := buckets
  hashFunc := hashFunc
  nodes := fun _ => []

def hashGetBucket (h : Hash K V) (key : K) : Except String Nat :=
  let bucket := h.hashFunc h.buckets key
  if bucket ≥ h.buckets then .error "bad bucket lookup" else .ok bucket

/-- The node of `key` in a bucket: the first whose key compares equal. -/
def findNode (key : K) (nodes : List (K × V)) : Option (K × V) :=
  nodes.find? fun n => n.1 = key

def hashGetNodeByKey (h : Hash K V) (key : K) : Except String (Option (K × V)) := do
  let bucket ← hashGetBucket h key
  return findNode key (h.nodes bucket)

def hashLookupEntry (h : Hash K V) (key : K) : Except String (Option V) := do
  let node ← hashGetNodeByKey h key
  return node.map Prod.snd

def setBucket (h : Hash K V) (bucket : Nat) (nodes : List (K × V)) : Hash K V :=
  { h with nodes := fun b => if b = bucket then nodes else h.nodes b }

def hashAddEntry (h : Hash K V) (key : K) (value : V) : Except String (Hash K V) := do
  if (← hashLookupEntry h key).isSome then .error "duplicate hash key"
  let bucket ← hashGetBucket h key
  return setBucket h bucket ((key, value) :: h.nodes bucket)

def hashFreeEntry (h : Hash K V) (key : K) : Except String (Hash K V) := do
  if (← hashGetNodeByKey h key).isNone then .error "hash node not found"
  let bucket ← hashGetBucket h key
  return setBucket h bucket ((h.nodes bucket).eraseP fun n => n.1 = key)

/-- A write through the pointer that `hash_lookup_entry` returned. -/
def writeValue (key : K) (value : V) : List (K × V) → List (K × V)
  | [] => []
  | n :: nodes => if n.1 = key then (key, value) :: nodes else n :: writeValue key value nodes

def hashWriteValue (h : Hash K V) (key : K) (value : V) : Except String (Hash K V) := do
  let bucket ← hashGetBucket h key
  return setBucket h bucket (writeValue key value (h.nodes bucket))

/-! ## The finite map -/

def Hash.get (h : Hash K V) (key : K) : Option V :=
  (findNode key (h.nodes (h.hashFunc h.buckets key))).map Prod.snd

/-- The hash function stays below the bucket count, and no bucket holds a key
twice. -/
structure Hash.WellFormed (h : Hash K V) : Prop where
  bound : ∀ key, h.hashFunc h.buckets key < h.buckets
  nodup : ∀ bucket, ((h.nodes bucket).map Prod.fst).Nodup

section Buckets

variable {key key' : K} {value : V} {nodes : List (K × V)}

theorem findNode_cons_self : findNode key ((key, value) :: nodes) = some (key, value) := by
  simp [findNode]

theorem findNode_cons_ne {n : K × V} (h : n.1 ≠ key) :
    findNode key (n :: nodes) = findNode key nodes := by
  simp [findNode, h]

theorem findNode_eq_none_iff : findNode key nodes = none ↔ key ∉ nodes.map Prod.fst := by
  rw [findNode, List.find?_eq_none, List.mem_map]
  constructor
  · rintro h ⟨n, hn, rfl⟩
    exact h n hn (by simp)
  · intro h n hn hkey
    exact h ⟨n, hn, by simpa using hkey⟩

theorem findNode_eraseP_ne (h : key' ≠ key) :
    findNode key' (nodes.eraseP fun n => n.1 = key) = findNode key' nodes := by
  induction nodes with
  | nil => rfl
  | cons n nodes ih =>
      by_cases hn : n.1 = key
      · have hne : n.1 ≠ key' := by
          rw [hn]
          exact h.symm
        rw [List.eraseP_cons_of_pos (by simpa using hn), findNode_cons_ne hne]
      · rw [List.eraseP_cons_of_neg (by simpa using hn)]
        by_cases hn' : n.1 = key'
        · simp [findNode, hn']
        · rw [findNode_cons_ne hn', findNode_cons_ne hn', ih]

theorem findNode_eraseP_self (h : (nodes.map Prod.fst).Nodup) :
    findNode key (nodes.eraseP fun n => n.1 = key) = none := by
  induction nodes with
  | nil => rfl
  | cons n nodes ih =>
      rw [List.map_cons, List.nodup_cons] at h
      by_cases hn : n.1 = key
      · rw [List.eraseP_cons_of_pos (by simpa using hn), findNode_eq_none_iff, ← hn]
        exact h.1
      · rw [List.eraseP_cons_of_neg (by simpa using hn), findNode_cons_ne hn]
        exact ih h.2

theorem writeValue_keys : (writeValue key value nodes).map Prod.fst = nodes.map Prod.fst := by
  induction nodes with
  | nil => rfl
  | cons n nodes ih =>
      rw [writeValue]
      split_ifs with hn
      · rw [List.map_cons, List.map_cons, hn]
      · rw [List.map_cons, List.map_cons, ih]

theorem findNode_writeValue_ne (h : key' ≠ key) :
    findNode key' (writeValue key value nodes) = findNode key' nodes := by
  induction nodes with
  | nil => rfl
  | cons n nodes ih =>
      rw [writeValue]
      split_ifs with hn
      · have hne : n.1 ≠ key' := by
          rw [hn]
          exact h.symm
        rw [findNode_cons_ne h.symm, findNode_cons_ne hne]
      · by_cases hn' : n.1 = key'
        · simp [findNode, hn']
        · rw [findNode_cons_ne hn', findNode_cons_ne hn', ih]

theorem findNode_writeValue_self (h : (findNode key nodes).isSome) :
    findNode key (writeValue key value nodes) = some (key, value) := by
  induction nodes with
  | nil => simp [findNode] at h
  | cons n nodes ih =>
      rw [writeValue]
      split_ifs with hn
      · exact findNode_cons_self
      · rw [findNode_cons_ne hn] at h ⊢
        exact ih h

end Buckets

section Specs

variable {h : Hash K V} {key : K}

omit [DecidableEq K] in
theorem hashGetBucket_ok (hw : h.WellFormed) (key : K) :
    hashGetBucket h key = .ok (h.hashFunc h.buckets key) := by
  have hlt := hw.bound key
  simp only [hashGetBucket, if_neg (Nat.not_le.mpr hlt)]

theorem hashGetNodeByKey_ok (hw : h.WellFormed) (key : K) :
    hashGetNodeByKey h key = .ok (findNode key (h.nodes (h.hashFunc h.buckets key))) := by
  rw [hashGetNodeByKey, hashGetBucket_ok hw]
  rfl

theorem hashLookupEntry_ok (hw : h.WellFormed) (key : K) :
    hashLookupEntry h key = .ok (h.get key) := by
  rw [hashLookupEntry, hashGetNodeByKey_ok hw]
  rfl

omit [DecidableEq K] in
theorem hashAlloc_wellFormed {buckets : Nat} {hashFunc : Nat → K → Nat}
    (hbound : ∀ key, hashFunc buckets key < buckets) :
    (hashAlloc buckets hashFunc : Hash K V).WellFormed :=
  ⟨hbound, fun _ => List.nodup_nil⟩

@[simp] theorem hashAlloc_get (buckets : Nat) (hashFunc : Nat → K → Nat) (key : K) :
    (hashAlloc buckets hashFunc : Hash K V).get key = none := rfl

omit [DecidableEq K] in
/-- Replacing a bucket without repeating a key keeps the table well formed. -/
theorem setBucket_wellFormed (hw : h.WellFormed) {bucket : Nat} {nodes : List (K × V)}
    (hnodup : (nodes.map Prod.fst).Nodup) : (setBucket h bucket nodes).WellFormed := by
  refine ⟨hw.bound, fun b => ?_⟩
  rw [setBucket]
  dsimp only
  split_ifs
  · exact hnodup
  · exact hw.nodup b

/-- What replacing the bucket of `key` does to the map: elsewhere nothing. -/
theorem setBucket_get {nodes : List (K × V)} {v : Option V}
    (hself : (findNode key nodes).map Prod.snd = v)
    (hother : ∀ key' ≠ key,
      findNode key' nodes = findNode key' (h.nodes (h.hashFunc h.buckets key)))
    (key' : K) :
    (setBucket h (h.hashFunc h.buckets key) nodes).get key' =
      if key' = key then v else h.get key' := by
  rw [Hash.get, setBucket]
  dsimp only
  by_cases hkey : key' = key
  · subst hkey
    rw [if_pos rfl, if_pos rfl, hself]
  · rw [if_neg hkey]
    split_ifs with hb
    · rw [hother key' hkey, Hash.get, hb]
    · rfl

theorem hashAddEntry_ok (hw : h.WellFormed) (value : V) (hkey : h.get key = none) :
    ∃ h', hashAddEntry h key value = .ok h' ∧ h'.WellFormed ∧
      ∀ key', h'.get key' = if key' = key then some value else h.get key' := by
  have hnone : findNode key (h.nodes (h.hashFunc h.buckets key)) = none := by
    simpa [Hash.get] using hkey
  refine ⟨setBucket h (h.hashFunc h.buckets key)
    ((key, value) :: h.nodes (h.hashFunc h.buckets key)), ?_, setBucket_wellFormed hw ?_,
    setBucket_get ?_ ?_⟩
  · rw [hashAddEntry, hashLookupEntry_ok hw, hkey, hashGetBucket_ok hw]
    rfl
  · rw [List.map_cons, List.nodup_cons]
    exact ⟨findNode_eq_none_iff.mp hnone, hw.nodup _⟩
  · rw [findNode_cons_self, Option.map_some]
  · intro key' hne
    exact findNode_cons_ne hne.symm

theorem hashFreeEntry_ok (hw : h.WellFormed) {value : V} (hkey : h.get key = some value) :
    ∃ h', hashFreeEntry h key = .ok h' ∧ h'.WellFormed ∧
      ∀ key', h'.get key' = if key' = key then none else h.get key' := by
  obtain ⟨n, hn, -⟩ : ∃ n, findNode key (h.nodes (h.hashFunc h.buckets key)) = some n ∧
      n.2 = value := by
    simpa [Hash.get] using hkey
  refine ⟨setBucket h (h.hashFunc h.buckets key)
    ((h.nodes (h.hashFunc h.buckets key)).eraseP fun n => n.1 = key), ?_,
    setBucket_wellFormed hw ?_, setBucket_get ?_ ?_⟩
  · rw [hashFreeEntry, hashGetNodeByKey_ok hw, hn, hashGetBucket_ok hw]
    rfl
  · exact (hw.nodup _).sublist (List.Sublist.map _ List.eraseP_sublist)
  · rw [findNode_eraseP_self (hw.nodup _), Option.map_none]
  · intro key' hne
    exact findNode_eraseP_ne hne

theorem hashWriteValue_ok (hw : h.WellFormed) (value : V) (hkey : (h.get key).isSome) :
    ∃ h', hashWriteValue h key value = .ok h' ∧ h'.WellFormed ∧
      ∀ key', h'.get key' = if key' = key then some value else h.get key' := by
  have hsome : (findNode key (h.nodes (h.hashFunc h.buckets key))).isSome := by
    simpa [Hash.get] using hkey
  refine ⟨setBucket h (h.hashFunc h.buckets key)
    (writeValue key value (h.nodes (h.hashFunc h.buckets key))), ?_,
    setBucket_wellFormed hw ?_, setBucket_get ?_ ?_⟩
  · rw [hashWriteValue, hashGetBucket_ok hw]
    rfl
  · rw [writeValue_keys]
    exact hw.nodup _
  · rw [findNode_writeValue_self hsome, Option.map_some]
  · intro key' hne
    exact findNode_writeValue_ne hne

end Specs

end Vsftpd
