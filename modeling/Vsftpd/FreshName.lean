import Vsftpd.Access
import Vsftpd.Ls.FilterText

/-!
# Names that do not exist yet

What `vsf_sysutil_realpath` is to return for a new name in a directory that
resolves, and what the checks by name make of the null pointer that it returns.
-/

namespace Vsftpd

open Vsftpd.Lib.TextSearch

/-- What follows the last slash, or the whole path. -/
def lastComponent (path : Bytes) : Bytes :=
  match strLocateCharReverse path slash with
  | none => path
  | some index => strMidToEnd path (index + 1)

/-- The path up to the last slash, the working directory when there is none. -/
def directoryPart (path : Bytes) : Bytes :=
  match strLocateCharReverse path slash with
  | none => bytes "."
  | some index => strLeft path (index + 1)

/-- A name in a directory, with one slash in between. -/
def joinPath (dir name : Bytes) : Bytes :=
  if dir = [slash] then slash :: name else dir ++ slash :: name

/-- A name that does not exist, in a directory that resolves to `dir`. -/
structure FreshName (env : PathEnv) (path dir : Bytes) : Prop where
  absent : env.realpath path = .enoent
  named : lastComponent path ≠ []
  resolves : env.realpath (directoryPart path) = .found dir

/-- Another way to write the path: the same name in a directory that is `dir`, however
that directory is written. -/
def Spells (env : PathEnv) (path dir spelling : Bytes) : Prop :=
  lastComponent spelling = lastComponent path ∧ env.realpath (directoryPart spelling) = .found dir

instance (env : PathEnv) (path dir spelling : Bytes) : Decidable (Spells env path dir spelling) :=
  inferInstanceAs (Decidable (_ ∧ _))

/-- Path lookups once there is a file of that name, whatever else is then found. -/
structure Created (env after : PathEnv) (path dir : Bytes) : Prop where
  getcwd : after.getcwd = env.getcwd
  found : ∀ spelling, Spells env path dir spelling →
    after.realpath spelling = .found (joinPath dir (lastComponent path))

variable {env after : PathEnv} {path dir : Bytes}

theorem FreshName.spells (h : FreshName env path dir) : Spells env path dir path :=
  ⟨rfl, h.resolves⟩

theorem vsfSysutilRealpath_fresh (h : env.realpath path = .enoent) (mayBeFresh : Bool) :
    vsfSysutilRealpath env path mayBeFresh = none := by
  cases hres : vsfSysutilRealpath env path mayBeFresh with
  | none => rfl
  | some resolved =>
      rw [vsfSysutilRealpath_eq_some, h] at hres
      cases hres

/-- No pattern matches a name that does not exist. -/
theorem vsfFilenamePassesFilter_fresh (h : env.realpath path = .enoent) (filter : Bytes)
    (iters : Nat) : vsfFilenamePassesFilter env path filter iters = (false, iters) := by
  rw [vsfFilenamePassesFilter, vsfSysutilRealpath_fresh h]

/-- A new name is denied by its text only. -/
theorem vsfAccessCheckFile_fresh (h : env.realpath path = .enoent) (access : Bytes) :
    vsfAccessCheckFile env (some access) path = !(strLocateStr path access).isSome := by
  unfold vsfAccessCheckFile vsfMatchFilter
  dsimp only
  rw [vsfFilenamePassesFilter_fresh h]
  rfl

theorem vsfAccessCheckFile_found {resolved : Bytes} (h : after.realpath path = .found resolved)
    (access : Bytes) :
    vsfAccessCheckFile after (some access) path = false ↔
      Matched after access resolved ∨ (strLocateStr path access).isSome = true := by
  rw [← vsfFilenamePassesFilter_iff_matched h, vsfAccessCheckFile, Bool.not_eq_false',
    vsfMatchFilter]
  by_cases hpass : (vsfFilenamePassesFilter after path access 0).1 = true
  · rw [if_pos hpass]
    exact iff_of_true rfl (.inl hpass)
  · rw [if_neg hpass, or_iff_right hpass]

/-- The answer for the new name is the one for the file exactly where the text of the
filter is in the name, or the filter does not match the file. -/
theorem vsfAccessCheckFile_created_iff (h : FreshName env path dir)
    (hcreated : Created env after path dir) (access : Bytes) :
    vsfAccessCheckFile env (some access) path = vsfAccessCheckFile after (some access) path ↔
      Occurs access path ∧ access ≠ [] ∨
        ¬ Matched after access (joinPath dir (lastComponent path)) := by
  have hafter := vsfAccessCheckFile_found (hcreated.found path h.spells) access
  rw [vsfAccessCheckFile_fresh h.absent, and_comm, ← strLocateStr_isSome]
  by_cases htext : (strLocateStr path access).isSome = true
  · rw [hafter.mpr (.inr htext), htext]
    exact iff_of_true rfl (.inl rfl)
  · rw [or_iff_left htext] at hafter
    rw [or_iff_right htext, ← hafter, Bool.eq_false_iff.mpr htext, Bool.not_false,
      Bool.not_eq_false]
    exact eq_comm

theorem freshName_lost (h : FreshName env path dir) :
    vsfSysutilRealpath env path true ≠ some (joinPath dir (lastComponent path)) ∧
      ∀ after, Created env after path dir → ∀ tunableDenyFile,
        vsfAccessCheckFile env tunableDenyFile path =
            vsfAccessCheckFile after tunableDenyFile path ↔
          ∀ access, tunableDenyFile = some access →
            Occurs access path ∧ access ≠ [] ∨
              ¬ Matched after access (joinPath dir (lastComponent path)) := by
  constructor
  · rw [vsfSysutilRealpath_fresh h.absent]
    exact (Option.some_ne_none _).symm
  · intro after hcreated tunableDenyFile
    cases tunableDenyFile with
    | none => exact iff_of_true rfl fun access haccess => by cases haccess
    | some access =>
        rw [vsfAccessCheckFile_created_iff h hcreated]
        constructor
        · rintro hsame _ ⟨⟩
          exact hsame
        · exact fun hsame => hsame access rfl

/-- A home directory with nothing in it. -/
def emptyHome : PathEnv where
  realpath := fun path =>
    if path ∈ [bytes ".", bytes "./", bytes "/home", bytes "/home/"] then .found (bytes "/home")
    else .enoent
  getcwd := bytes "/home"

theorem emptyHome_fresh : FreshName emptyHome (bytes "a.mp3") (bytes "/home") :=
  ⟨by decide, by decide, by decide⟩

/-- The same directory with one file, which every spelling of its name finds. -/
def songHome : PathEnv where
  realpath := fun path =>
    if Spells emptyHome (bytes "a.mp3") (bytes "/home") path then .found (bytes "/home/a.mp3")
    else emptyHome.realpath path
  getcwd := bytes "/home"

theorem songHome_created : Created emptyHome songHome (bytes "a.mp3") (bytes "/home") :=
  ⟨rfl, fun _ hspells => if_pos hspells⟩

theorem freshName_lost_here :
    vsfSysutilRealpath emptyHome (bytes "a.mp3") true ≠
        some (joinPath (bytes "/home") (lastComponent (bytes "a.mp3"))) ∧
      ∀ after, Created emptyHome after (bytes "a.mp3") (bytes "/home") → ∀ tunableDenyFile,
        vsfAccessCheckFile emptyHome tunableDenyFile (bytes "a.mp3") =
            vsfAccessCheckFile after tunableDenyFile (bytes "a.mp3") ↔
          ∀ access, tunableDenyFile = some access →
            Occurs access (bytes "a.mp3") ∧ access ≠ [] ∨
              ¬ Matched after access
                (joinPath (bytes "/home") (lastComponent (bytes "a.mp3"))) :=
  freshName_lost emptyHome_fresh

/-- Uploads of denied kinds pass the check that the file would not pass. -/
theorem freshName_lets_through :
    FreshName emptyHome (bytes "a.mp3") (bytes "/home") ∧
      Created emptyHome songHome (bytes "a.mp3") (bytes "/home") ∧
      vsfSysutilRealpath emptyHome (bytes "a.mp3") true = none ∧
      ∀ access ∈ [bytes "*.mp3", bytes "\x7b*.mp3,*.mov,.private\x7d"],
        vsfAccessCheckFile emptyHome (some access) (bytes "a.mp3") = true ∧
          vsfAccessCheckFile songHome (some access) (bytes "a.mp3") = false :=
  ⟨emptyHome_fresh, songHome_created, by decide +kernel, by decide +kernel⟩

end Vsftpd
