import Vsftpd.Str

/-!
# Matching a filename against a pattern

`vsf_filename_passes_filter`, with the file system it asks: `realpath(3)` and
the working directory.  The iteration counter that the source passes by pointer
is passed and returned.
-/

namespace Vsftpd

def vsftpMatchitersMax : Nat := 1000

def star : UInt8 := 42
def question : UInt8 := 63
def openBrace : UInt8 := 123
def closeBrace : UInt8 := 125
def comma : UInt8 := 44
def slash : UInt8 := 47

/-! ## `vsf_sysutil_realpath` -/

inductive Realpath where
  | found (path : Bytes)
  | enoent
  | failed
  deriving DecidableEq, Repr

/-- What path lookups see: the C library's `realpath` and the working directory. -/
structure PathEnv where
  realpath : Bytes → Realpath
  getcwd : Bytes

/-- For a path that does not exist the source resolves the directory part and
composes a path from it, but then returns 0. -/
def vsfSysutilRealpath (env : PathEnv) (path : Bytes) (mayBeFresh : Bool) : Option Bytes :=
  match env.realpath path with
  | .found resolved => some resolved
  | .failed => none
  | .enoent =>
    if !mayBeFresh then none
    else
      let dir := match strLocateCharReverse path slash with
        | none => bytes "."
        | some index => strLeft path (index + 1)
      match env.realpath dir with
      | .found _ => none
      | _ => none

theorem vsfSysutilRealpath_eq_some {env : PathEnv} {path resolved : Bytes} {mayBeFresh : Bool} :
    vsfSysutilRealpath env path mayBeFresh = some resolved ↔
      env.realpath path = .found resolved := by
  unfold vsfSysutilRealpath
  cases env.realpath path with
  | found r => simp
  | failed => simp
  | enoent =>
      dsimp only
      split_ifs
      · simp
      · split <;> simp

/-! ## The filter -/

/-- The part of the resolved name that a pattern is compared with. -/
def filterSubject (env : PathEnv) (filter normalized : Bytes) : Bytes :=
  match filter, normalized with
  | f :: _, n :: _ =>
    if f = slash then
      if n ≠ slash then
        let cwd := if env.getcwd.length > 1 then env.getcwd ++ [slash] else env.getcwd
        cwd ++ normalized
      else normalized
    else if f ≠ openBrace then strBasename normalized
    else normalized
  | _, _ => normalized

/-- The text up to the next special character, what follows it, and the
character itself, 0 at the end of the filter. -/
def nextToken (filterRemain : Bytes) : Bytes × Bytes × UInt8 :=
  match strLocateChars filterRemain [star, question, openBrace] with
  | some (index, c) => (strLeft filterRemain index, strMidToEnd filterRemain (index + 1), c)
  | none => (filterRemain, [], 0)

/-- Move the match as far forward as it can be found again behind itself. -/
def scanForward (needed : Bytes) : Nat → Bytes → Nat → Nat
  | 0, _, index => index
  | n + 1, scanFwd, index =>
    match strLocateStr scanFwd needed with
    | none => index
    | some found =>
      scanForward needed n (strMidToEnd scanFwd (found + needed.length))
        (index + found + needed.length)

/-- Match the text in front of a token; what remains of the name. -/
def matchNeeded (mustMatchAtCurrentPos : Bool) (needed nameRemain : Bytes) : Option Bytes :=
  if strIsempty needed then some nameRemain
  else
    match strLocateStr nameRemain needed with
    | none => none
    | some index =>
      if mustMatchAtCurrentPos ∧ index > 0 then none
      else
        let index :=
          if mustMatchAtCurrentPos then index
          else
            let scanFwd := strMidToEnd nameRemain (index + needed.length)
            scanForward needed scanFwd.length scanFwd index
        some (strMidToEnd nameRemain (index + needed.length))

/-- The loop over the alternatives of a brace list: it ends at the first one
that passes, and at the first empty one.  `n` bounds its turns. -/
def braceLoop (try' : Bytes → Nat → Bool × Nat) :
    Nat → Bytes → Bytes → Nat → Bool × Nat
  | 0, _, _, iters => (false, iters)
  | n + 1, braceList, temp, iters =>
    if strIsempty braceList then (false, iters)
    else
      match try' braceList iters with
      | (true, iters) => (true, iters)
      | (false, iters) =>
        let (braceList, temp) := strSplitChar temp comma
        braceLoop try' n braceList temp iters

/-- The main loop.  A call for an alternative starts the loop anew on the rest
of the name; each turn counts in `iters`, so `fuel` never runs out before the
budget does. -/
def filterLoop (env : PathEnv) : Nat → Bytes → Bytes → Bool → UInt8 → Nat → Bool × Nat
  | 0, _, _, _, _, iters => (false, iters)
  | fuel + 1, filterRemain, nameRemain, mustMatch, lastToken, iters =>
    if strIsempty filterRemain ∨ iters ≥ vsftpMatchitersMax then
      if nameRemain.length > 0 ∧ lastToken ≠ star then (false, iters)
      else (iters ≠ vsftpMatchitersMax, iters)
    else
      let iters := iters + 1
      let (needed, filterRemain, lastToken) := nextToken filterRemain
      match matchNeeded mustMatch needed nameRemain with
      | none => (false, iters)
      | some nameRemain =>
        if lastToken = question then
          match nameRemain with
          | [] => (false, iters)
          | _ :: nameRemain => filterLoop env fuel filterRemain nameRemain true lastToken iters
        else if lastToken = openBrace then
          match strLocateChar filterRemain closeBrace with
          | some _ =>
            let (braceList, filterRemain) := strSplitChar filterRemain closeBrace
            let (first, temp) := strSplitChar braceList comma
            braceLoop
              (fun alternative iters =>
                let newFilter := alternative ++ filterRemain
                match vsfSysutilRealpath env nameRemain true with
                | none => (false, iters)
                | some normalized =>
                  filterLoop env fuel newFilter (filterSubject env newFilter normalized) true 0
                    iters)
              (braceList.length + 1) first temp iters
          | none =>
            match nameRemain with
            | [] => (false, iters)
            | c :: nameRemain =>
              if c ≠ openBrace then (false, iters)
              else filterLoop env fuel filterRemain nameRemain true lastToken iters
        else filterLoop env fuel filterRemain nameRemain false lastToken iters

def vsfFilenamePassesFilter (env : PathEnv) (filename filter : Bytes) (iters : Nat) :
    Bool × Nat :=
  match vsfSysutilRealpath env filename true with
  | none => (false, iters)
  | some normalized =>
    filterLoop env (vsftpMatchitersMax + 1) filter (filterSubject env filter normalized) true 0
      iters

end Vsftpd
