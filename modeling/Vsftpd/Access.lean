import Vsftpd.Ls.Filter

/-!
# Access control by filename

`access.c`.  A setting that is not set (`none`) checks nothing.
-/

namespace Vsftpd

def vsfMatchFilter (env : PathEnv) (filename access : Bytes) : Bool :=
  if (vsfFilenamePassesFilter env filename access 0).1 then true
  else (strLocateStr filename access).isSome

/-- `vsf_access_check_file`; true lets the name through. -/
def vsfAccessCheckFile (env : PathEnv) (tunableDenyFile : Option Bytes) (filename : Bytes) :
    Bool :=
  match tunableDenyFile with
  | none => true
  | some access => !vsfMatchFilter env filename access

def vsfAccessCheckFileVisible (env : PathEnv) (tunableHideFile : Option Bytes)
    (filename : Bytes) : Bool :=
  match tunableHideFile with
  | none => true
  | some access => !vsfMatchFilter env filename access

def vsfAccessCheckFileUpload (env : PathEnv) (tunableUploadFile : Option Bytes)
    (filename : Bytes) : Bool :=
  match tunableUploadFile with
  | none => true
  | some access => vsfMatchFilter env filename access

def vsfAccessCheckFileDownload (env : PathEnv) (tunableDownloadFile : Option Bytes)
    (filename : Bytes) : Bool :=
  match tunableDownloadFile with
  | none => true
  | some access => vsfMatchFilter env filename access

end Vsftpd
