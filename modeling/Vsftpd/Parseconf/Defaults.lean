import Vsftpd.Parseconf.LoadSetting

/-!
# The defaults of the settings

`tunables_load_defaults` of `tunables.c`.
-/

namespace Vsftpd.Parseconf

def defaultStr : StrTunable → Option Bytes
  | .secureChrootDir => some (bytes "/var/run/vsftpd/empty")
  | .ftpUsername => some (bytes "ftp")
  | .chownUsername => some (bytes "root")
  | .xferlogFile => some (bytes "/var/log/xferlog")
  | .vsftpdLogFile => some (bytes "/var/log/vsftpd.log")
  | .messageFile => some (bytes ".message")
  | .noprivUser => some (bytes "nobody")
  | .bannedEmailFile => some (bytes "/etc/vsftpd.banned_emails")
  | .chrootListFile => some (bytes "/etc/vsftpd.chroot_list")
  | .pamServiceName => some (bytes "vsftpd")
  | .guestUsername => some (bytes "ftp")
  | .userlistFile => some (bytes "/etc/vsftpd.user_list")
  | .emailPasswordFile => some (bytes "/etc/vsftpd.email_passwords")
  | .rsaCertFile => some (bytes "/usr/share/ssl/certs/vsftpd.pem")
  | .sslCiphers => some (bytes "ECDHE-RSA-AES256-GCM-SHA384")
  | _ => none

def defaultBool : BoolTunable → Bool
  | .anonymousEnable | .pasvEnable | .portEnable | .anonWorldReadableOnly | .userlistDeny
  | .checkShell | .useSendfile | .downloadEnable | .dirlistEnable | .chmodEnable
  | .forceLocalLoginsSsl | .forceLocalDataSsl | .tlsv1 | .mdtmWrite | .lockUploadFiles
  | .strictSslReadEof | .sslRequestCert | .requireSslReuse | .isolate | .isolateNetwork
  | .ftpEnable => true
  | _ => false

def defaultUint : UintTunable → Nat
  | .acceptTimeout => 60
  | .connectTimeout => 60
  | .localUmask => 0o77
  | .anonUmask => 0o77
  | .ftpDataPort => 20
  | .idleSessionTimeout => 300
  | .dataConnectionTimeout => 300
  | .pasvMinPort => 5001
  | .pasvMaxPort => 0
  | .anonMaxRate => 0
  | .localMaxRate => 0
  | .listenPort => 21
  | .maxClients => 2000
  | .fileOpenMode => 0o666
  | .maxPerIp => 50
  | .transChunkSize => 0
  | .delayFailedLogin => 1
  | .delaySuccessfulLogin => 0
  | .maxLoginFails => 3
  | .chownUploadMode => 0o600

/-- Every variable is assigned, whatever it held. -/
def tunablesLoadDefaults : Settings := ⟨defaultStr, defaultBool, defaultUint⟩

/-- A default string is what a line that spells it out gives the variable. -/
theorem stringDenoted_defaultStr (v : StrTunable) :
    ∀ text ∈ defaultStr v, stringDenoted text = some text := by
  cases v <;> decide +kernel

end Vsftpd.Parseconf
