import Vsftpd.Convert
import Vsftpd.Lib.ExceptRules
import Vsftpd.Lib.TextBlock

/-!
# The buffers of `str.c`

A `struct mystr` with its buffer, its length and its capacity, and the public functions
of `str.c` on it.  The buffer is as many bytes as `malloc()` was asked for, one more
than the capacity; what it holds at first is unknown.

A pointer into a string's buffer is null as long as the buffer is, and a dynamic bounds
cast compares with the capacity.
-/

namespace Vsftpd.MyStr

open Vsftpd.Lib Vsftpd.Lib.TextBlock

structure Mystr where
  pBuf : Option Bytes := none
  len : Nat := 0
  allocBytes : Nat := 0
  deriving DecidableEq, Repr

/-- How a call may fail: by `bug()`, by `die()`, or by a bounds check or a null pointer. -/
inductive Fault where
  | bug (text : String)
  | die (text : String)
  | trap
  deriving DecidableEq, Repr

/-- The bytes of the block that is allocated as number `n`, when there is memory for it. -/
abbrev Memory := Nat → Option (Nat → UInt8)

/-- The state is how many blocks have been allocated. -/
abbrev StrM := StateT Nat (Except Fault)

def intMax : Nat := 2147483647

/-- An `unsigned int`. -/
def u32 (n : Nat) : Nat := n % 4294967296

/-! ## `sysutil.c` -/

section
variable (mem : Memory)

/-- The bytes of a fresh block. -/
def freshBlock (size : Nat) (failure : String) : StrM Bytes := do
  let n ← get
  set (n + 1)
  match mem n with
  | none => throw (.die failure)
  | some junk => pure ((List.range size).map junk)

def vsfSysutilMalloc (size : Nat) : StrM Bytes :=
  if size = 0 ∨ size > intMax then throw (.bug "zero or big size in vsf_sysutil_malloc")
  else freshBlock mem size "malloc"

def vsfSysutilRealloc (old : Option Bytes) (size : Nat) : StrM Bytes :=
  if size = 0 ∨ size > intMax then throw (.bug "zero or big size in vsf_sysutil_realloc")
  else do
    let fresh ← freshBlock mem size "realloc"
    let kept := (old.getD []).take size
    pure (kept ++ fresh.drop kept.length)

/-- `strlen()` of what a pointer leads to, with the bytes that it counts. -/
def vsfSysutilStrlen (text : Bytes) : StrM Bytes :=
  if (cString text).length > intMax / 8 then throw (.die "string suspiciously long")
  else pure (cString text)

/-! ## Access to a buffer -/

def Mystr.load (p : Mystr) (i : Nat) : StrM UInt8 :=
  match p.pBuf with
  | none => throw .trap
  | some buf => if i < p.allocBytes then pure (buf.getD i 0) else throw .trap

/-- A terminator may also be written at the upper bound. -/
def Mystr.store (p : Mystr) (i : Nat) (c : UInt8) : StrM Mystr :=
  match p.pBuf with
  | none => throw .trap
  | some buf =>
    if i < p.allocBytes ∨ (i = p.allocBytes ∧ c = 0) then
      pure { p with pBuf := some (buf.set i c) }
    else throw .trap

/-- The `n` bytes from `p_buf + i`, cast to a pointer with `count(n)`. -/
def Mystr.slice (p : Mystr) (i n : Nat) : StrM Bytes :=
  match p.pBuf with
  | none => if n = 0 then pure [] else throw .trap
  | some buf => if i + n ≤ p.allocBytes then pure ((buf.drop i).take n) else throw .trap

/-- `vsf_sysutil_memcpy()` to `p_buf + i`. -/
def Mystr.memcpy (p : Mystr) (i : Nat) (src : Bytes) : StrM Mystr :=
  match p.pBuf with
  | none => if src = [] then pure p else throw .trap
  | some buf =>
    if i + src.length ≤ p.allocBytes then
      if src.length > intMax then throw (.die "possible negative value to memcpy?")
      else pure { p with pBuf := some (overwrite buf i src) }
    else throw .trap

/-! ## Growing -/

def sSetbuf (p : Mystr) (newbuf : Bytes) (len : Nat) : StrM Mystr :=
  if p.pBuf ≠ none then throw (.bug "p_buf not NULL when setting it")
  else pure { p with allocBytes := len, pBuf := some newbuf }

def strFree (_ : Mystr) : Mystr := {}

/-- A new buffer, its last byte a zero. -/
def newBuffer (p : Mystr) (size : Nat) : StrM Mystr := do
  let buf ← vsfSysutilMalloc mem (u32 (size + 1))
  sSetbuf (strFree p) (buf.set size 0) size

/-- The buffer made longer, its last byte a zero. -/
def longerBuffer (p : Mystr) (size : Nat) : StrM Mystr := do
  let buf ← vsfSysutilRealloc mem p.pBuf (u32 (size + 1))
  pure { p with allocBytes := size, pBuf := some (buf.set size 0) }

/-- A buffer of `bufNeeded` bytes, its contents lost when it is a new one. -/
def freshRoom (p : Mystr) (bufNeeded : Nat) : StrM Mystr :=
  if bufNeeded > p.allocBytes then newBuffer mem p bufNeeded else pure p

/-- A buffer of `bufNeeded` bytes with the contents of the old one. -/
def moreRoom (p : Mystr) (bufNeeded : Nat) : StrM Mystr :=
  if bufNeeded > p.allocBytes then longerBuffer mem p bufNeeded else pure p

def privateStrAllocMemchunk (p : Mystr) (src : Bytes) : StrM Mystr :=
  let len := src.length
  if u32 (len + 1) < len then throw (.bug "integer overflow")
  else do
    let bufNeeded := u32 (len + 1)
    let p ← freshRoom mem p bufNeeded
    let p ← p.memcpy 0 src
    let p ← p.store len 0
    pure { p with len := len }

def privateStrAppendMemchunk (p : Mystr) (src : Bytes) : StrM Mystr :=
  let len := src.length
  if u32 (len + p.len) < len then throw (.bug "integer overflow")
  else
    let total := u32 (len + p.len)
    if u32 (total + 1) < total then throw (.bug "integer overflow")
    else do
      let bufNeeded := total + 1
      let p ← moreRoom mem p bufNeeded
      let p ← p.memcpy p.len src
      let p ← p.store (p.len + len) 0
      pure { p with len := u32 (p.len + len) }

/-! ## Public functions on one string -/

def strAllocText (p : Mystr) (text : Bytes) : StrM Mystr := do
  let text ← vsfSysutilStrlen text
  privateStrAllocMemchunk mem p text

def strAppendText (p : Mystr) (text : Bytes) : StrM Mystr := do
  let text ← vsfSysutilStrlen text
  privateStrAppendMemchunk mem p text

def strAppendChar (p : Mystr) (c : UInt8) : StrM Mystr := privateStrAppendMemchunk mem p [c]

/-- The string, with a buffer. -/
def strGetbuf (p : Mystr) : StrM Mystr :=
  match p.pBuf with
  | none =>
    if p.len ≠ 0 ∨ p.allocBytes ≠ 0 then
      throw (.bug "p_buf NULL and len or alloc_bytes != 0 in str_getbuf")
    else privateStrAllocMemchunk mem p []
  | some _ => if p.len ≤ p.allocBytes then pure p else throw .trap

def strTrunc (p : Mystr) (truncLen : Nat) : StrM Mystr :=
  if truncLen ≥ p.allocBytes then
    throw (.bug "trunc_len not smaller than alloc_bytes in str_trunc")
  else
    let p := { p with len := truncLen }
    p.store p.len 0

def strEmpty (p : Mystr) : StrM Mystr := do
  let p ← strGetbuf mem p
  strTrunc p 0

def strReserve (p : Mystr) (n : Nat) : StrM Mystr :=
  let resLen := u32 (n + 1)
  if resLen = 0 then throw (.bug "integer overflow")
  else do
    let p ← moreRoom mem p resLen
    p.store (resLen - 1) 0

/-- The loops that replace each character; the second argument counts what is left. -/
def replaceEach (f : UInt8 → UInt8) (p : Mystr) : Nat → StrM Mystr
  | 0 => pure p
  | n + 1 => do
    let i := p.len - (n + 1)
    let c ← p.load i
    let p ← p.store i (f c)
    replaceEach f p n

def strUpper (p : Mystr) : StrM Mystr := replaceEach vsfSysutilToupper p p.len

def strReplaceChar (p : Mystr) (old new : UInt8) : StrM Mystr :=
  replaceEach (fun c => if c = old then new else c) p p.len

/-- Spaces put at the end. -/
def appendSpaces (p : Mystr) : Nat → StrM Mystr
  | 0 => pure p
  | n + 1 => do
    let p ← strAppendChar mem p 32
    appendSpaces p n

def strRpad (p : Mystr) (minWidth : Nat) : StrM Mystr :=
  if p.len ≥ minWidth then pure p else appendSpaces mem p (minWidth - p.len)

/-! ## Public functions on two strings -/

def strCopy (dest src : Mystr) : StrM Mystr := do
  let text ← src.slice 0 src.len
  privateStrAllocMemchunk mem dest text

def strAppendStr (p other : Mystr) : StrM Mystr := do
  let text ← other.slice 0 other.len
  privateStrAppendMemchunk mem p text

/-- The second string is the static buffer of the function. -/
def strLpad (p tmp : Mystr) (minWidth : Nat) : StrM (Mystr × Mystr) :=
  if p.len ≥ minWidth then pure (p, tmp)
  else do
    let toPad := minWidth - p.len
    let tmp ← strEmpty mem tmp
    let tmp ← appendSpaces mem tmp toPad
    let tmp ← strAppendStr mem tmp p
    let p ← strCopy mem p tmp
    pure (p, tmp)

def strLeft (p out : Mystr) (chars : Nat) : StrM Mystr :=
  if chars > p.len then throw (.bug "chars invalid in str_left")
  else do
    let text ← p.slice 0 chars
    privateStrAllocMemchunk mem out text

def strRight (p out : Mystr) (chars : Nat) : StrM Mystr :=
  if chars > p.len then throw (.bug "chars invalid in str_right")
  else do
    let text ← p.slice (p.len - chars) chars
    privateStrAllocMemchunk mem out text

def strMidToEnd (p out : Mystr) (indexx : Nat) : StrM Mystr :=
  if indexx > p.len then throw (.bug "invalid indexx in str_mid_to_end")
  else do
    let text ← p.slice indexx (p.len - indexx)
    privateStrAllocMemchunk mem out text

/-! ## Searching and splitting -/

/-- From `i` on, at `n` places. -/
def locateUp (p : Mystr) (text : Bytes) (i : Nat) : Nat → StrM (Option Nat)
  | 0 => pure none
  | n + 1 => do
    let here ← p.slice i text.length
    if here = text then pure (some i) else locateUp p text (i + 1) n

/-- From `i` down to 0. -/
def locateDown (p : Mystr) (text : Bytes) : Nat → StrM (Option Nat)
  | 0 => do
    let here ← p.slice 0 text.length
    if here = text then pure (some 0) else pure none
  | i + 1 => do
    let here ← p.slice (i + 1) text.length
    if here = text then pure (some (i + 1)) else locateDown p text i

def strLocateText (p : Mystr) (text : Bytes) : StrM (Option Nat) := do
  let text ← vsfSysutilStrlen text
  if text.length = 0 ∨ text.length > p.len then pure none
  else locateUp p text 0 (p.len - text.length + 1)

def strLocateTextReverse (p : Mystr) (text : Bytes) : StrM (Option Nat) := do
  let text ← vsfSysutilStrlen text
  if text.length = 0 ∨ text.length > p.len then pure none
  else locateDown p text (p.len - text.length)

def locateText (p : Mystr) (text : Bytes) (isReverse : Bool) : StrM (Option Nat) :=
  if isReverse then strLocateTextReverse p text else strLocateText p text

/-- What is left of `p_src`, and `p_rhs`. -/
def strSplitTextCommon (src rhs : Mystr) (text : Bytes) (isReverse : Bool) :
    StrM (Mystr × Mystr) := do
  let search ← vsfSysutilStrlen text
  let searchLen := search.length
  let located ← locateText src text isReverse
  match located with
  | none => do
    let rhs ← strEmpty mem rhs
    pure (src, rhs)
  | some indexx =>
    if u32 (indexx + searchLen) > src.len then throw (.bug "indexx invalid in str_split_text")
    else do
      let tail ← src.slice (indexx + searchLen) (src.len - indexx - searchLen)
      let rhs ← privateStrAllocMemchunk mem rhs tail
      let src ← strTrunc src indexx
      pure (src, rhs)

def strSplitText (src rhs : Mystr) (text : Bytes) : StrM (Mystr × Mystr) :=
  strSplitTextCommon mem src rhs text false

def strSplitTextReverse (src rhs : Mystr) (text : Bytes) : StrM (Mystr × Mystr) :=
  strSplitTextCommon mem src rhs text true

def strSplitChar (src rhs : Mystr) (c : UInt8) : StrM (Mystr × Mystr) :=
  strSplitText mem src rhs [c, 0]

def strSplitCharReverse (src rhs : Mystr) (c : UInt8) : StrM (Mystr × Mystr) :=
  strSplitTextReverse mem src rhs [c, 0]

end

end Vsftpd.MyStr
