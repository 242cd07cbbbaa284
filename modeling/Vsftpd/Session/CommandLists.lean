import Vsftpd.Session.Dispatch

/-!
# `cmds_allowed` and `cmds_denied`

The loops that look a command up in a list end at the first element that is empty.
-/

namespace Vsftpd.Session

/-- The elements of a comma-separated text. -/
def elements (list : Bytes) : List Bytes := list.splitOn comma

/-- Those before the first empty one. -/
def firstElements (list : Bytes) : List Bytes := (elements list).takeWhile (· ≠ [])

section
variable {pre post list cmd : Bytes} {n : Nat}

theorem firstElements_of_not_mem (h : comma ∉ list) (hlist : list ≠ []) :
    firstElements list = [list] := by
  unfold firstElements elements
  rw [List.splitOn_eq_singleton h, List.takeWhile_cons_of_pos (by simpa using hlist)]
  rfl

theorem firstElements_append (h : comma ∉ pre) :
    firstElements (pre ++ comma :: post) =
      if pre = [] then [] else pre :: firstElements post := by
  unfold firstElements elements
  rw [List.splitOn_append_cons_self_of_not_mem h, List.takeWhile_cons]
  by_cases hpre : pre = []
  · rw [if_pos hpre, if_neg (by simpa using hpre)]
  · rw [if_neg hpre, if_pos (by simpa using hpre)]

theorem firstElements_nil : firstElements [] = [] := rfl

theorem mem_elements_of_first (h : cmd ∈ firstElements list) : cmd ∈ elements list :=
  (List.takeWhile_prefix _).subset h

/-- By induction on the rounds, each of which takes an element off. -/
theorem hasElement_iff (h : list.length < n) :
    hasElement n list cmd = true ↔ cmd ∈ firstElements list := by
  induction n generalizing list with
  | zero => exact absurd h (Nat.not_lt_zero _)
  | succ n ih =>
      rw [hasElement]
      by_cases hmem : comma ∈ list
      · obtain ⟨pre, post, rfl, hpre⟩ := List.eq_append_cons_of_mem hmem
        rw [strSplitChar_append (by decide) hpre, firstElements_append hpre]
        rw [List.length_append, List.length_cons] at h
        by_cases hnil : pre = []
        · rw [if_pos (by rw [hnil]; rfl), if_pos hnil]
          exact iff_of_false Bool.false_ne_true List.not_mem_nil
        · have hfull : ¬ strIsempty pre = true := fun hempty => hnil (List.isEmpty_iff.mp hempty)
          rw [if_neg hfull, if_neg hnil, List.mem_cons]
          by_cases heq : pre = cmd
          · rw [if_pos heq]
            exact iff_of_true rfl (.inl heq.symm)
          · have hlen : post.length < n := by omega
            rw [if_neg heq, ih hlen, or_iff_right fun h => heq h.symm]
      · rw [strSplitChar_of_not_mem hmem]
        by_cases hnil : list = []
        · rw [hnil]
          exact iff_of_false Bool.false_ne_true List.not_mem_nil
        · have hfull : ¬ strIsempty list = true := fun hempty => hnil (List.isEmpty_iff.mp hempty)
          have hlen : ([] : Bytes).length < n :=
            Nat.lt_of_lt_of_le (List.length_pos_iff.mpr hnil) (Nat.le_of_lt_succ h)
          rw [if_neg hfull, firstElements_of_not_mem hmem hnil, List.mem_singleton]
          by_cases heq : list = cmd
          · rw [if_pos heq]
            exact iff_of_true rfl heq.symm
          · rw [if_neg heq, ih hlen, firstElements_nil]
            exact iff_of_false List.not_mem_nil fun h => heq h.symm

theorem elementOf_iff : elementOf list cmd = true ↔ cmd ∈ firstElements list :=
  hasElement_iff (Nat.lt_succ_self _)

end

/-! ## Which commands may run -/

/-- The command is an element of the allow list, and not of the deny list. -/
def Permitted (cfg : Tunables) (cmd : Bytes) : Prop :=
  (∀ list, cfg.cmdsAllowed = some list → cmd ∈ elements list) ∧
    ∀ list, cfg.cmdsDenied = some list → cmd ∉ elements list

/-- An element of the list only behind an empty one. -/
def OnlyBehindEmpty (list cmd : Bytes) : Prop :=
  cmd ∈ elements list ∧ cmd ∉ firstElements list

/-- Behind an empty element the allow list has the command only where the deny list has it
too, and the deny list only where the allow list keeps it out before that. -/
structure NothingHidden (cfg : Tunables) (cmd : Bytes) : Prop where
  allowed : ∀ list, cfg.cmdsAllowed = some list → OnlyBehindEmpty list cmd →
    ∃ denied, cfg.cmdsDenied = some denied ∧ cmd ∈ elements denied
  denied : ∀ list, cfg.cmdsDenied = some list → OnlyBehindEmpty list cmd →
    ∃ allowed, cfg.cmdsAllowed = some allowed ∧ cmd ∉ firstElements allowed

section
variable {cfg : Tunables} {cmd : Bytes}

theorem cmdOk_iff : cmdOk cfg cmd = true ↔
    (∀ list, cfg.cmdsAllowed = some list → cmd ∈ firstElements list) ∧
      ∀ list, cfg.cmdsDenied = some list → cmd ∉ firstElements list := by
  unfold cmdOk
  rw [Bool.and_eq_true]
  apply and_congr
  · cases cfg.cmdsAllowed with
    | none => exact iff_of_true rfl nofun
    | some list =>
        rw [elementOf_iff]
        exact ⟨fun h _ heq => by cases heq; exact h, fun h => h list rfl⟩
  · cases cfg.cmdsDenied with
    | none => exact iff_of_true rfl nofun
    | some list =>
        rw [Bool.not_eq_true', ← Bool.not_eq_true, elementOf_iff]
        exact ⟨fun h _ heq => by cases heq; exact h, fun h => h list rfl⟩

/-- The dispatcher goes by the lists when nothing that matters is hidden in them. -/
theorem cmdOk_permitted_iff (cfg : Tunables) (cmd : Bytes) :
    (cmdOk cfg cmd = true ↔ Permitted cfg cmd) ↔ NothingHidden cfg cmd := by
  rw [cmdOk_iff]
  constructor
  · intro hiff
    constructor
    · intro list hset hhidden
      by_contra hnone
      have hpermitted : Permitted cfg cmd := by
        refine ⟨fun list' hset' => ?_, fun denied hdenied hmem => hnone ⟨denied, hdenied, hmem⟩⟩
        rw [hset] at hset'
        cases hset'
        exact hhidden.1
      exact hhidden.2 ((hiff.mpr hpermitted).1 list hset)
    · intro list hset hhidden
      by_contra hnone
      have hpermitted : Permitted cfg cmd := by
        apply hiff.mp
        refine ⟨fun allowed hallowed => ?_, fun list' hset' => ?_⟩
        · by_contra hnot
          exact hnone ⟨allowed, hallowed, hnot⟩
        · rw [hset] at hset'
          cases hset'
          exact hhidden.2
      exact hpermitted.2 list hset hhidden.1
  · intro hnothing
    constructor
    · rintro ⟨hallowed, hdenied⟩
      refine ⟨fun list hset => mem_elements_of_first (hallowed list hset), fun list hset hmem => ?_⟩
      obtain ⟨allowed, hset', hnot⟩ := hnothing.denied list hset ⟨hmem, hdenied list hset⟩
      exact hnot (hallowed allowed hset')
    · rintro ⟨hallowed, hdenied⟩
      refine ⟨fun list hset => ?_, fun list hset hmem =>
        hdenied list hset (mem_elements_of_first hmem)⟩
      by_contra hnot
      obtain ⟨denied, hset', hmem⟩ := hnothing.allowed list hset ⟨hallowed list hset, hnot⟩
      exact hdenied denied hset' hmem

/-- With the deny list `STOR,,DELE` a file may be deleted. -/
theorem cmdOk_dele :
    cmdOk { cmdsDenied := some (bytes "STOR,,DELE") } (bytes "DELE") = true ∧
      ¬ Permitted { cmdsDenied := some (bytes "STOR,,DELE") } (bytes "DELE") := by
  constructor
  · decide
  · intro h
    exact h.2 (bytes "STOR,,DELE") rfl (by decide)

end

end Vsftpd.Session
