import Vsftpd.Session.ReplyLine
import Vsftpd.NetStr
import Mathlib.Data.List.DropRight

/-!
# Command lines

A line as `ftp_getline` takes it from the stream of the control connection, and what
becomes of a text that the server has shown when a client sends it back.
-/

namespace Vsftpd.Session

open Vsftpd.Lib Vsftpd.Lib.Doubling Vsftpd.Lib.TextSearch Vsftpd.NetStr

def vsftpMaxCommandLine : Nat := 4096

/-- `p_control_line_buf` -/
structure ControlLineBuf where
  block : Bytes
  size : block.length = vsftpMaxCommandLine

def ControlLineBuf.readBuffer (buf : ControlLineBuf) : ReadBuffer :=
  ⟨buf.block, by rw [buf.size]; decide⟩

def ftpGetline {S : Type} (io : NetReader S) (buf : ControlLineBuf) (sess : S) :
    Except Fault (ControlLine × S) := do
  let res ← strNetfdAlloc io 10 buf.readBuffer sess
  if res.retval = 0 then pure (.eof, res.sess)
  else if res.retval < 0 then pure (.tooLong, res.sess)
  else pure (.line res.str, res.sess)

/-! ## The line -/

variable {text c p : Bytes}

theorem ftpGetline_line (buf : ControlLineBuf) (rest : Bytes) (pieces : Nat → Nat)
    (htext : (10 : UInt8) ∉ text) :
    ∃ line after, ftpGetline deliveryReader buf ⟨text ++ 10 :: rest, pieces⟩ = .ok (line, after) ∧
      ((∃ text, line = .line text) ↔ text.length < vsftpMaxCommandLine) ∧
      ∀ got, line = .line got → got = text ∧ after.stream = rest := by
  obtain ⟨res, hrun, hres⟩ :=
    strNetfdAlloc_outcome 10 buf.readBuffer ⟨text ++ 10 :: rest, pieces⟩
  have hsize : buf.readBuffer.maxlen = vsftpMaxCommandLine := buf.size
  rw [hsize] at hres
  unfold ftpGetline
  rw [hrun, ok_bind]
  cases hres with
  | line hret hsplit hclear hroom =>
      have hfirst : FirstAt [10] (text ++ 10 :: rest) res.str res.sess.stream := by
        rw [show text ++ 10 :: rest = res.str ++ 10 :: res.sess.stream from hsplit]
        exact firstAt_singleton hclear
      obtain ⟨hstr, hrest⟩ := hfirst.unique (firstAt_singleton htext)
      refine ⟨.line res.str, res.sess, ?_, ?_, ?_⟩
      · rw [if_neg (by omega), if_neg (by omega)]
        rfl
      · exact iff_of_true ⟨res.str, rfl⟩ (by rwa [hstr] at hroom)
      · rintro got ⟨⟩
        exact ⟨hstr, hrest⟩
  | tooLong hret hlong hclear =>
      refine ⟨.tooLong, res.sess, ?_, ?_, ?_⟩
      · rw [if_neg (by omega), if_pos (by omega)]
        rfl
      · refine iff_of_false (by simp) fun hroom => ?_
        exact hclear (mem_take_of_lt hroom)
      · rintro got ⟨⟩
  | ended hret hshort hclear => exact absurd (by simp) hclear

theorem ftpGetline_sent (buf : ControlLineBuf) (rest : Bytes) (pieces : Nat → Nat)
    (htext : (10 : UInt8) ∉ text) (hfits : text.length < vsftpMaxCommandLine) :
    ∃ pieces', ftpGetline deliveryReader buf ⟨text ++ 10 :: rest, pieces⟩ =
      .ok (.line text, ⟨rest, pieces'⟩) := by
  obtain ⟨line, after, hrun, hline, hgot⟩ := ftpGetline_line buf rest pieces htext
  obtain ⟨got, rfl⟩ := hline.mpr hfits
  obtain ⟨rfl, rfl⟩ := hgot got rfl
  exact ⟨after.pieces, hrun⟩

/-! ## The argument -/

theorem strip_eq (s : Bytes) :
    (s.reverse.dropWhile fun c => decide (c = 13)).reverse =
      s.rdropWhile fun c => decide (c = 13) := rfl

/-- Stripping stops at the space before the argument. -/
theorem strip_argument (pre s : Bytes) :
    ((pre ++ 32 :: s).rdropWhile fun c => decide (c = 13)) =
      pre ++ 32 :: s.rdropWhile fun c => decide (c = 13) := by
  have hsplit : (pre ++ 32 :: s).reverse = s.reverse ++ (32 :: pre.reverse) := by simp
  unfold List.rdropWhile
  rw [hsplit, List.dropWhile_append]
  split_ifs with hempty
  · rw [List.isEmpty_iff.mp hempty]
    simp
  · simp

/-- The argument in a line that does not end in the middle of the command. -/
theorem splitCommand_argument {s : Bytes} (hc : (32 : UInt8) ∉ c) :
    (splitCommand (c ++ 32 :: s)).2 =
      (strReplaceChar s 0 10).rdropWhile fun c => decide (c = 13) := by
  have hcommand : (32 : UInt8) ∉ strReplaceChar c 0 10 := by
    intro hmem
    obtain ⟨d, hd, heq⟩ := List.mem_map.mp hmem
    split_ifs at heq with hzero
    · exact absurd heq (by decide)
    · exact hc (heq ▸ hd)
  have hreplace : strReplaceChar (c ++ 32 :: s) 0 10 =
      strReplaceChar c 0 10 ++ 32 :: strReplaceChar s 0 10 := by
    simp [strReplaceChar]
  unfold splitCommand
  rw [hreplace, strip_eq, strip_argument]
  dsimp only
  split_ifs with hspace
  · have hlen := congrArg List.length hspace
    rw [List.length_append, List.length_cons, List.length_singleton] at hlen
    exact (List.length_eq_zero_iff.mp (by omega)).symm
  · rw [strSplitChar_append (by decide) hcommand]

theorem strReplaceChar_mangleText (hp : (0 : UInt8) ∉ p) :
    strReplaceChar (mangleText p) 0 10 = double 255 p := by
  have hdouble : (0 : UInt8) ∉ double 255 p := fun h => hp (mem_double.mp h)
  unfold mangleText
  rw [strReplaceText_double (by decide), strReplaceChar_back hdouble]

/-- A text of the server's replies, as the argument of a command. -/
theorem shown_argument (hc : (32 : UInt8) ∉ c) (hp : (0 : UInt8) ∉ p) :
    (splitCommand (c ++ 32 :: (mangleText p ++ [13]))).2 =
      (double 255 p).rdropWhile fun c => decide (c = 13) := by
  have happend : strReplaceChar (mangleText p ++ [13]) 0 10 =
      strReplaceChar (mangleText p) 0 10 ++ [13] := by
    simp [strReplaceChar]
  rw [splitCommand_argument hc, happend, strReplaceChar_mangleText hp]
  exact List.rdropWhile_concat_pos _ _ 13 (by decide)

theorem strip_eq_self {s : Bytes} :
    (s.rdropWhile fun c => decide (c = 13)) = s ↔ s.getLast? ≠ some 13 := by
  rw [List.rdropWhile_eq_self_iff]
  cases s using List.reverseRecOn with
  | nil => simp
  | append_singleton s d => simp

/-- Stripping leaves nothing that could be stripped, so the doubled text must be the
text and end in something else. -/
theorem strip_double_eq {p : Bytes} :
    ((double 255 p).rdropWhile fun c => decide (c = 13)) = p ↔
      (255 : UInt8) ∉ p ∧ p.getLast? ≠ some 13 := by
  constructor
  · intro h
    have hlast : p.getLast? ≠ some 13 := by
      rw [← strip_eq_self]
      conv_rhs => rw [← h, ← List.rdropWhile_idempotent, h]
    have hkept : ((double 255 p).rdropWhile fun c => decide (c = 13)) = double 255 p := by
      rw [strip_eq_self, getLast?_double]
      exact hlast
    rw [hkept] at h
    exact ⟨double_eq_self.mp h, hlast⟩
  · rintro ⟨htelnet, hlast⟩
    rw [double_of_not_mem htelnet, strip_eq_self]
    exact hlast

theorem newline_not_mem_commandLine (hc : (10 : UInt8) ∉ c) (p : Bytes) :
    (10 : UInt8) ∉ c ++ 32 :: (mangleText p ++ [13]) := by
  intro hmem
  rcases List.mem_append.mp hmem with hmem | hmem
  · exact hc hmem
  · rcases List.mem_cons.mp hmem with heq | hmem
    · exact absurd heq (by decide)
    · rcases List.mem_append.mp hmem with hmem | hmem
      · exact newline_not_mem_mangleText p hmem
      · exact absurd hmem (by decide)

/-- The client sends a text as it was shown, and more lines may follow. -/
theorem shownText_returned_iff (buf : ControlLineBuf) (pieces : Nat → Nat) (c p rest : Bytes)
    (hspace : (32 : UInt8) ∉ c) (hnewline : (10 : UInt8) ∉ c) (hp : (0 : UInt8) ∉ p) :
    ∃ line after, ftpGetline deliveryReader buf
        ⟨c ++ 32 :: (mangleText p ++ [13, 10]) ++ rest, pieces⟩ = .ok (line, after) ∧
      ((∃ text, line = .line text) ↔
        (c ++ 32 :: (mangleText p ++ [13, 10])).length ≤ vsftpMaxCommandLine) ∧
      ∀ text, line = .line text → after.stream = rest ∧
        ((splitCommand text).2 = p ↔ (255 : UInt8) ∉ p ∧ p.getLast? ≠ some 13) := by
  obtain ⟨line, after, hrun, hfits, hgot⟩ := ftpGetline_line buf rest pieces
    (newline_not_mem_commandLine hnewline p)
  have hwire : c ++ 32 :: (mangleText p ++ [13]) ++ 10 :: rest =
      c ++ 32 :: (mangleText p ++ [13, 10]) ++ rest := by
    simp
  rw [hwire] at hrun
  refine ⟨line, after, hrun, ?_, ?_⟩
  · rw [hfits]
    simp only [List.length_append, List.length_cons, List.length_nil]
    omega
  · intro text hline
    obtain ⟨htext, hafter⟩ := hgot text hline
    refine ⟨hafter, ?_⟩
    rw [htext, shown_argument hspace hp]
    exact strip_double_eq

def emptyLineBuf : ControlLineBuf :=
  ⟨List.replicate vsftpMaxCommandLine 0, List.length_replicate⟩

theorem shownText_returned_iff_here :
    ∃ line after, ftpGetline deliveryReader emptyLineBuf
        ⟨bytes "CWD" ++ 32 :: (mangleText [97, 10, 98] ++ [13, 10]) ++ bytes "PWD\r\n",
          fun _ => 2⟩ = .ok (line, after) ∧
      ((∃ text, line = .line text) ↔
        (bytes "CWD" ++ 32 :: (mangleText [97, 10, 98] ++ [13, 10])).length ≤
          vsftpMaxCommandLine) ∧
      ∀ text, line = .line text → after.stream = bytes "PWD\r\n" ∧
        ((splitCommand text).2 = [97, 10, 98] ↔
          (255 : UInt8) ∉ ([97, 10, 98] : Bytes) ∧ ([97, 10, 98] : Bytes).getLast? ≠ some 13) :=
  shownText_returned_iff emptyLineBuf (fun _ => 2) (bytes "CWD") [97, 10, 98] (bytes "PWD\r\n")
    (by decide) (by decide) (by decide)

/-- Directory names that end in 0xFF and in a carriage return, sent back one after the
other. -/
theorem shownText_changed :
    ∃ first second after after', ftpGetline deliveryReader emptyLineBuf
        ⟨bytes "CWD" ++ 32 :: (mangleText [97, 255] ++ [13]) ++
          10 :: (bytes "CWD" ++ 32 :: (mangleText [97, 13] ++ [13]) ++ 10 :: []), fun _ => 2⟩ =
        .ok (.line first, after) ∧
      ftpGetline deliveryReader emptyLineBuf after = .ok (.line second, after') ∧
      (splitCommand first).2 = [97, 255, 255] ∧ (splitCommand second).2 = [97] := by
  have hclear : ∀ name : Bytes, (10 : UInt8) ∉ bytes "CWD" ++ 32 :: (mangleText name ++ [13]) :=
    newline_not_mem_commandLine (by decide)
  obtain ⟨_, hfirst⟩ := ftpGetline_sent emptyLineBuf
    (bytes "CWD" ++ 32 :: (mangleText [97, 13] ++ [13]) ++ 10 :: []) (fun _ => 2)
    (hclear [97, 255]) (by decide)
  obtain ⟨_, hsecond⟩ := ftpGetline_sent emptyLineBuf [] _ (hclear [97, 13]) (by decide)
  exact ⟨_, _, _, _, hfirst, hsecond, by decide +kernel, by decide +kernel⟩

end Vsftpd.Session
