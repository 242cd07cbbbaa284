import Mathlib.Data.List.Basic
import Vsftpd.SockAddr

/-!
# Comparing socket addresses

Two addresses are equal for `vsf_sysutil_sockaddr_addr_equal` when they have the same
sixteen bytes, of which an IPv4 address makes up the last four.
-/

namespace Vsftpd

/-- The sixteen bytes of an address. -/
def canonical : SockAddr → In6Addr
  | .inet a _ => v4Mapped a
  | .inet6 a _ _ => a

/-! ## The mapping -/

theorem v4Mapped_take (a : InAddr) : (v4Mapped a).1.take 12 = v4MappedPrefix :=
  List.take_left' rfl

theorem v4Mapped_drop (a : InAddr) : (v4Mapped a).1.drop 12 = a.1 :=
  List.drop_left' rfl

theorem v4Mapped_inj {a b : InAddr} : v4Mapped a = v4Mapped b ↔ a = b := by
  constructor
  · intro h
    apply Subtype.ext
    rw [← v4Mapped_drop a, ← v4Mapped_drop b, h]
  · intro h
    rw [h]

/-- The address behind the prefix is found, and nothing else is. -/
theorem ipv6V4_eq_some_iff {a : InAddr} {b : In6Addr} {port : UInt16} {scope : UInt32} :
    vsfSysutilSockaddrIpv6V4 (.inet6 b port scope) = some a ↔ v4Mapped a = b := by
  unfold vsfSysutilSockaddrIpv6V4
  dsimp only
  constructor
  · intro h
    split_ifs at h with hprefix
    cases h
    apply Subtype.ext
    show v4MappedPrefix ++ b.1.drop 12 = b.1
    rw [← hprefix, List.take_append_drop]
  · intro h
    subst h
    rw [if_pos (v4Mapped_take a)]
    exact congrArg some (Subtype.ext (v4Mapped_drop a))

theorem addrEqual_iff (p q : SockAddr) :
    vsfSysutilSockaddrAddrEqual p q = true ↔ canonical p = canonical q := by
  cases p with
  | inet a port =>
      cases q with
      | inet b port' =>
          show decide (a = b) = true ↔ v4Mapped a = v4Mapped b
          rw [decide_eq_true_iff, v4Mapped_inj]
      | inet6 b port' scope =>
          show decide (vsfSysutilSockaddrIpv6V4 (.inet6 b port' scope) = some a) = true ↔ _
          rw [decide_eq_true_iff, ipv6V4_eq_some_iff]
          rfl
  | inet6 a port scope =>
      cases q with
      | inet b port' =>
          show decide (vsfSysutilSockaddrIpv6V4 (.inet6 a port scope) = some b) = true ↔ _
          rw [decide_eq_true_iff, ipv6V4_eq_some_iff]
          exact eq_comm
      | inet6 b port' scope' =>
          show decide (a = b) = true ↔ a = b
          rw [decide_eq_true_iff]

theorem addrEqual_equivalence :
    Equivalence fun p q => vsfSysutilSockaddrAddrEqual p q = true where
  refl p := (addrEqual_iff p p).mpr rfl
  symm h := (addrEqual_iff _ _).mpr ((addrEqual_iff _ _).mp h).symm
  trans h h' :=
    (addrEqual_iff _ _).mpr (((addrEqual_iff _ _).mp h).trans ((addrEqual_iff _ _).mp h'))

/-! ## The static buffer

`vsf_sysutil_sockaddr_ipv4_v6` returns a buffer of its own, of which it writes the last
four bytes. -/

/-- `ret`, as it is at the beginning. -/
def staticRet : In6Addr := ⟨v4MappedPrefix ++ [0, 0, 0, 0], rfl⟩

/-- The result, and what the buffer holds afterwards. -/
def ipv4V6Static (ret : In6Addr) : SockAddr → Option In6Addr × In6Addr
  | .inet a _ =>
    let ret : In6Addr :=
      ⟨ret.1.take 12 ++ a.1, by rw [List.length_append, List.length_take, ret.2, a.2]; rfl⟩
    (some ret, ret)
  | .inet6 _ _ _ => (none, ret)

/-- What the buffer holds after these calls. -/
def ipv4V6Calls (calls : List SockAddr) : In6Addr :=
  calls.foldl (fun ret p => (ipv4V6Static ret p).2) staticRet

theorem ipv4V6Static_mapped {ret : In6Addr} (h : ret.1.take 12 = v4MappedPrefix) (p : SockAddr) :
    (ipv4V6Static ret p).2.1.take 12 = v4MappedPrefix := by
  cases p with
  | inet a port =>
      show (ret.1.take 12 ++ a.1).take 12 = v4MappedPrefix
      rw [h]
      exact List.take_left' rfl
  | inet6 a port scope => exact h

theorem ipv4V6Calls_mapped (calls : List SockAddr) :
    (ipv4V6Calls calls).1.take 12 = v4MappedPrefix := by
  have hrun : ∀ ret : In6Addr, ret.1.take 12 = v4MappedPrefix →
      (calls.foldl (fun ret p => (ipv4V6Static ret p).2) ret).1.take 12 = v4MappedPrefix := by
    induction calls with
    | nil => exact fun ret h => h
    | cons p calls ih => exact fun ret h => ih _ (ipv4V6Static_mapped h p)
  exact hrun staticRet rfl

/-- Earlier calls do not matter. -/
theorem ipv4V6Static_eq {ret : In6Addr} (h : ret.1.take 12 = v4MappedPrefix) (p : SockAddr) :
    (ipv4V6Static ret p).1 = vsfSysutilSockaddrIpv4V6 p := by
  cases p with
  | inet a port =>
      apply congrArg some
      apply Subtype.ext
      show ret.1.take 12 ++ a.1 = v4MappedPrefix ++ a.1
      rw [h]
  | inet6 a port scope => rfl

/-- The comparison is that of the sixteen bytes, and the two mappings are inverse to each
other whatever calls there were before. -/
theorem sockaddrAddrEqual_canonical :
    (∀ p q, vsfSysutilSockaddrAddrEqual p q = true ↔ canonical p = canonical q) ∧
      (Equivalence fun p q => vsfSysutilSockaddrAddrEqual p q = true) ∧
      ∀ calls a b port port' scope,
        (ipv4V6Static (ipv4V6Calls calls) (.inet a port)).1 = some b ↔
          vsfSysutilSockaddrIpv6V4 (.inet6 b port' scope) = some a := by
  refine ⟨addrEqual_iff, addrEqual_equivalence, fun calls a b port port' scope => ?_⟩
  rw [ipv4V6Static_eq (ipv4V6Calls_mapped calls), ipv6V4_eq_some_iff]
  exact Option.some_inj

end Vsftpd
