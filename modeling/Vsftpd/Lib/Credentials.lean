import Mathlib.Data.Finset.Basic

/-!
# The credentials of a process

User and group ids, supplementary groups and capabilities, and the calls that change them,
by the rules of Linux.  A process that has given up its privileges does not get them back
by any of these calls.
-/

namespace Vsftpd.Lib

/-- The real, the effective and the saved id. -/
structure Ids where
  real : Nat
  effective : Nat
  saved : Nat
  deriving DecidableEq, Repr

namespace Ids

def all (n : Nat) : Ids := ⟨n, n, n⟩

/-- `setuid` and `setgid`. -/
def setId (privileged : Bool) (i : Ids) (n : Nat) : Option Ids :=
  if privileged then some (all n)
  else if n = i.real ∨ n = i.saved then some { i with effective := n }
  else none

/-- `setreuid` and `setregid`; an id that is not given stays.  The saved id follows the
effective one, unless that is set to the real id alone. -/
def setReId (privileged : Bool) (i : Ids) (real effective : Option Nat) : Option Ids :=
  if (real.all fun n => privileged || n = i.real || n = i.effective) &&
      effective.all fun n => privileged || n = i.real || n = i.effective || n = i.saved then
    let new := { i with real := real.getD i.real, effective := effective.getD i.effective }
    some (if real.isSome || effective.any (· ≠ i.real) then { new with saved := new.effective }
      else new)
  else none

/-- `setresuid` and `setresgid`. -/
def setResId (privileged : Bool) (i : Ids) (real effective saved : Option Nat) : Option Ids :=
  let may := Option.all fun n => privileged || n = i.real || n = i.effective || n = i.saved
  if may real && may effective && may saved then
    some ⟨real.getD i.real, effective.getD i.effective, saved.getD i.saved⟩
  else none

end Ids

def capChown : Nat := 0
def capSetgid : Nat := 6
def capSetuid : Nat := 7
def capNetBindService : Nat := 10
def capSysChroot : Nat := 18

structure Cred where
  uids : Ids
  gids : Ids
  groups : List Nat
  permitted : Finset Nat
  effective : Finset Nat
  keepCaps : Bool := false
  deriving DecidableEq

inductive CredCall where
  | setuid (uid : Nat)
  | setreuid (ruid euid : Option Nat)
  | setresuid (ruid euid suid : Option Nat)
  | setgid (gid : Nat)
  | setregid (rgid egid : Option Nat)
  | setresgid (rgid egid sgid : Option Nat)
  | setgroups (groups : List Nat)
  | capset (permitted effective : Finset Nat)
  | keepCaps (keep : Bool)

namespace Cred

def hasRoot (i : Ids) : Bool := i.real = 0 || i.effective = 0 || i.saved = 0

/-- Other user ids, with what they do to the capabilities: they go when the last id of the
superuser goes, and are not effective without its effective id. -/
def setUids (c : Cred) (uids : Ids) : Cred :=
  let permitted := if hasRoot c.uids && !hasRoot uids && !c.keepCaps then ∅ else c.permitted
  { c with
    uids := uids
    permitted := permitted
    effective :=
      if c.uids.effective = 0 && uids.effective ≠ 0 then ∅
      else if c.uids.effective ≠ 0 && uids.effective = 0 then permitted
      else if hasRoot c.uids && !hasRoot uids && !c.keepCaps then ∅
      else c.effective }

/-- The call, unless it is refused. -/
def exec (c : Cred) : CredCall → Option Cred
  | .setuid uid => (c.uids.setId (capSetuid ∈ c.effective) uid).map c.setUids
  | .setreuid ruid euid => (c.uids.setReId (capSetuid ∈ c.effective) ruid euid).map c.setUids
  | .setresuid ruid euid suid =>
    (c.uids.setResId (capSetuid ∈ c.effective) ruid euid suid).map c.setUids
  | .setgid gid =>
    (c.gids.setId (capSetgid ∈ c.effective) gid).map fun gids => { c with gids := gids }
  | .setregid rgid egid =>
    (c.gids.setReId (capSetgid ∈ c.effective) rgid egid).map fun gids => { c with gids := gids }
  | .setresgid rgid egid sgid =>
    (c.gids.setResId (capSetgid ∈ c.effective) rgid egid sgid).map
      fun gids => { c with gids := gids }
  | .setgroups groups => if capSetgid ∈ c.effective then some { c with groups := groups } else none
  | .capset permitted effective =>
    if permitted ⊆ c.permitted ∧ effective ⊆ permitted then
      some { c with permitted := permitted, effective := effective }
    else none
  | .keepCaps keep => some { c with keepCaps := keep }

/-- The credentials after any calls. -/
def run (c : Cred) (calls : List CredCall) : Cred :=
  calls.foldl (fun c call => (c.exec call).getD c) c

end Cred

/-! ## Privileges that are gone -/

/-- Nothing is left but these ids, groups and capabilities. -/
structure Confined (uid gid : Nat) (groups : List Nat) (caps : Finset Nat) (c : Cred) : Prop where
  uids : c.uids = .all uid
  gids : c.gids = .all gid
  groups : c.groups = groups
  permitted : c.permitted ⊆ caps
  effective : c.effective ⊆ c.permitted

section
variable {i j : Ids} {n : Nat} {uid gid : Nat} {groups : List Nat} {caps : Finset Nat} {c d : Cred}

theorem Ids.setId_all (h : (Ids.all n).setId false uid = some i) : i = .all n := by
  unfold setId at h
  rw [if_neg (by decide)] at h
  split_ifs at h with heq
  cases h
  rcases heq with rfl | rfl <;> rfl

/-- An id is not given, or it is the one that is there anyway. -/
theorem getD_of_all {p : Nat → Bool} (hp : ∀ m, p m = true → m = n) {r : Option Nat}
    (h : r.all p = true) : r.getD n = n := by
  cases r with
  | none => rfl
  | some m => exact hp m h

theorem Ids.setReId_all {r e : Option Nat} (h : (Ids.all n).setReId false r e = some i) :
    i = .all n := by
  unfold setReId all at h
  dsimp only at h
  rw [Option.ite_none_right_eq_some] at h
  obtain ⟨hmay, h⟩ := h
  obtain ⟨hr, he⟩ := Bool.and_eq_true_iff.mp hmay
  rw [getD_of_all (by simp) hr, getD_of_all (by simp) he] at h
  cases h
  split_ifs <;> rfl

theorem Ids.setResId_all {r e s : Option Nat} (h : (Ids.all n).setResId false r e s = some i) :
    i = .all n := by
  unfold setResId all at h
  dsimp only at h
  rw [Option.ite_none_right_eq_some] at h
  obtain ⟨hmay, h⟩ := h
  obtain ⟨hmay, hs⟩ := Bool.and_eq_true_iff.mp hmay
  obtain ⟨hr, he⟩ := Bool.and_eq_true_iff.mp hmay
  rw [getD_of_all (by simp) hr, getD_of_all (by simp) he, getD_of_all (by simp) hs] at h
  cases h
  rfl

theorem Cred.hasRoot_all (huid : uid ≠ 0) : Cred.hasRoot (.all uid) = false := by
  simp [hasRoot, Ids.all, huid]

/-- Without an id of the superuser nothing happens to the capabilities. -/
theorem Cred.setUids_all (h : c.uids = .all uid) (huid : uid ≠ 0) : c.setUids (.all uid) = c := by
  unfold setUids
  rw [h, Cred.hasRoot_all huid]
  obtain ⟨uids, gids, groups, permitted, effective, keepCaps⟩ := c
  subst h
  simp [Ids.all, huid]

theorem Confined.exec (huid : uid ≠ 0) (hsetuid : capSetuid ∉ caps) (hsetgid : capSetgid ∉ caps)
    (h : Confined uid gid groups caps c) {call : CredCall} (hd : c.exec call = some d) :
    Confined uid gid groups caps d := by
  have hnouid : decide (capSetuid ∈ c.effective) = false :=
    decide_eq_false fun hmem => hsetuid (h.permitted (h.effective hmem))
  have hnogid : decide (capSetgid ∈ c.effective) = false :=
    decide_eq_false fun hmem => hsetgid (h.permitted (h.effective hmem))
  have huids : ∀ {uids}, uids = Ids.all uid → Confined uid gid groups caps (c.setUids uids) := by
    intro uids heq
    rw [heq, Cred.setUids_all h.uids huid]
    exact h
  cases call with
  | setuid n =>
      obtain ⟨uids, hids, rfl⟩ := Option.map_eq_some_iff.mp hd
      rw [hnouid, h.uids] at hids
      exact huids (Ids.setId_all hids)
  | setreuid r e =>
      obtain ⟨uids, hids, rfl⟩ := Option.map_eq_some_iff.mp hd
      rw [hnouid, h.uids] at hids
      exact huids (Ids.setReId_all hids)
  | setresuid r e s =>
      obtain ⟨uids, hids, rfl⟩ := Option.map_eq_some_iff.mp hd
      rw [hnouid, h.uids] at hids
      exact huids (Ids.setResId_all hids)
  | setgid n =>
      obtain ⟨gids, hids, rfl⟩ := Option.map_eq_some_iff.mp hd
      rw [hnogid, h.gids] at hids
      exact { h with gids := Ids.setId_all hids }
  | setregid r e =>
      obtain ⟨gids, hids, rfl⟩ := Option.map_eq_some_iff.mp hd
      rw [hnogid, h.gids] at hids
      exact { h with gids := Ids.setReId_all hids }
  | setresgid r e s =>
      obtain ⟨gids, hids, rfl⟩ := Option.map_eq_some_iff.mp hd
      rw [hnogid, h.gids] at hids
      exact { h with gids := Ids.setResId_all hids }
  | setgroups gs =>
      unfold Cred.exec at hd
      rw [Option.ite_none_right_eq_some] at hd
      exact absurd hd.1 (of_decide_eq_false hnogid)
  | capset permitted effective =>
      unfold Cred.exec at hd
      rw [Option.ite_none_right_eq_some] at hd
      obtain ⟨⟨hpermitted, heffective⟩, hd⟩ := hd
      cases hd
      exact ⟨h.uids, h.gids, h.groups, hpermitted.trans h.permitted, heffective⟩
  | keepCaps keep =>
      cases hd
      exact ⟨h.uids, h.gids, h.groups, h.permitted, h.effective⟩

/-- Privileges that are gone do not come back. -/
theorem Confined.run (huid : uid ≠ 0) (hsetuid : capSetuid ∉ caps) (hsetgid : capSetgid ∉ caps)
    (h : Confined uid gid groups caps c) (calls : List CredCall) :
    Confined uid gid groups caps (c.run calls) := by
  induction calls generalizing c with
  | nil => exact h
  | cons call calls ih =>
      show Confined uid gid groups caps (Cred.run ((c.exec call).getD c) calls)
      cases hd : c.exec call with
      | none => exact ih h
      | some d => exact ih (h.exec huid hsetuid hsetgid hd)

end

end Vsftpd.Lib
