import Vsftpd.Convert
import Mathlib.Logic.Function.Basic

/-!
# Settings of the configuration

The variables that the three tables of `parseconf.c` lead to, and the tables.
-/

namespace Vsftpd.Parseconf

/-! ## Variables -/

inductive StrTunable where
  | secureChrootDir | ftpUsername | chownUsername | xferlogFile | vsftpdLogFile | messageFile
  | noprivUser | ftpdBanner | bannedEmailFile | chrootListFile | pamServiceName | guestUsername
  | userlistFile | anonRoot | localRoot | bannerFile | pasvAddress | listenAddress
  | userConfigDir | listenAddress6 | cmdsAllowed | hideFile | denyFile | uploadFile
  | downloadFile | userSubToken | emailPasswordFile | rsaCertFile | dsaCertFile | sslCiphers
  | rsaPrivateKeyFile | dsaPrivateKeyFile | caCertsFile | cmdsDenied
  deriving DecidableEq, Repr

inductive BoolTunable where
  | anonymousEnable | utf8Filesystem | localEnable | pasvEnable | portEnable | chrootLocalUser
  | writeEnable | anonUploadEnable | anonMkdirWriteEnable | anonOtherWriteEnable | chownUploads
  | connectFromPort20 | xferlogEnable | dirmessageEnable | anonWorldReadableOnly
  | asyncAborEnable | asciiUploadEnable | asciiDownloadEnable | oneProcessModel
  | xferlogStdFormat | pasvPromiscuous | denyEmailEnable | chrootListEnable | setproctitleEnable
  | textUserdbNames | lsRecurseEnable | logFtpProtocol | guestEnable | userlistEnable
  | userlistDeny | useLocaltime | checkShell | hideIds | listen | portPromiscuous
  | passwdChrootEnable | noAnonPassword | tcpWrappers | useSendfile | forceDotFiles | listenIpv6
  | dualLogEnable | syslogEnable | background | virtualUseLocalPrivs | sessionSupport
  | downloadEnable | dirlistEnable | chmodEnable | secureEmailListEnable | runAsLaunchingUser
  | noLogLock | sslEnable | allowAnonSsl | forceLocalLoginsSsl | forceLocalDataSsl | sslv2
  | sslv3 | tlsv1 | tildeUserEnable | forceAnonLoginsSsl | forceAnonDataSsl | mdtmWrite
  | lockUploadFiles | pasvAddrResolve | debugSsl | requireCert | validateCert | strictSslReadEof
  | strictSslWriteShutdown | sslRequestCert | deleteFailedUploads | implicitSsl | ptraceSandbox
  | requireSslReuse | isolate | isolateNetwork | ftpEnable | httpEnable | seccompSandbox
  | allowWriteableChroot
  deriving DecidableEq, Repr

inductive UintTunable where
  | acceptTimeout | connectTimeout | localUmask | anonUmask | ftpDataPort | idleSessionTimeout
  | dataConnectionTimeout | pasvMinPort | pasvMaxPort | anonMaxRate | localMaxRate | listenPort
  | maxClients | fileOpenMode | maxPerIp | transChunkSize | delayFailedLogin
  | delaySuccessfulLogin | maxLoginFails | chownUploadMode
  deriving DecidableEq, Repr

/-- What the variables hold; a string that is not set is a null pointer. -/
structure Settings where
  str : StrTunable → Option Bytes
  bool : BoolTunable → Bool
  uint : UintTunable → Nat

/-! ## Tables -/

def nameTable {V : Type} (entries : List (String × V)) : List (Bytes × V) :=
  entries.map fun entry => (bytes entry.1, entry.2)

def parseconfStrArray : List (Bytes × StrTunable) :=
  nameTable [
    ("secure_chroot_dir", .secureChrootDir), ("ftp_username", .ftpUsername),
    ("chown_username", .chownUsername), ("xferlog_file", .xferlogFile),
    ("vsftpd_log_file", .vsftpdLogFile), ("message_file", .messageFile),
    ("nopriv_user", .noprivUser), ("ftpd_banner", .ftpdBanner),
    ("banned_email_file", .bannedEmailFile), ("chroot_list_file", .chrootListFile),
    ("pam_service_name", .pamServiceName), ("guest_username", .guestUsername),
    ("userlist_file", .userlistFile), ("anon_root", .anonRoot), ("local_root", .localRoot),
    ("banner_file", .bannerFile), ("pasv_address", .pasvAddress),
    ("listen_address", .listenAddress), ("user_config_dir", .userConfigDir),
    ("listen_address6", .listenAddress6), ("cmds_allowed", .cmdsAllowed),
    ("hide_file", .hideFile), ("deny_file", .denyFile), ("upload_file", .uploadFile),
    ("download_file", .downloadFile), ("user_sub_token", .userSubToken),
    ("email_password_file", .emailPasswordFile), ("rsa_cert_file", .rsaCertFile),
    ("dsa_cert_file", .dsaCertFile), ("ssl_ciphers", .sslCiphers),
    ("rsa_private_key_file", .rsaPrivateKeyFile), ("dsa_private_key_file", .dsaPrivateKeyFile),
    ("ca_certs_file", .caCertsFile), ("cmds_denied", .cmdsDenied)]

def parseconfBoolArray : List (Bytes × BoolTunable) :=
  nameTable [
    ("anonymous_enable", .anonymousEnable), ("utf8_filesystem", .utf8Filesystem),
    ("local_enable", .localEnable), ("pasv_enable", .pasvEnable), ("port_enable", .portEnable),
    ("chroot_local_user", .chrootLocalUser), ("write_enable", .writeEnable),
    ("anon_upload_enable", .anonUploadEnable),
    ("anon_mkdir_write_enable", .anonMkdirWriteEnable),
    ("anon_other_write_enable", .anonOtherWriteEnable), ("chown_uploads", .chownUploads),
    ("connect_from_port_20", .connectFromPort20), ("xferlog_enable", .xferlogEnable),
    ("dirmessage_enable", .dirmessageEnable),
    ("anon_world_readable_only", .anonWorldReadableOnly),
    ("async_abor_enable", .asyncAborEnable), ("ascii_upload_enable", .asciiUploadEnable),
    ("ascii_download_enable", .asciiDownloadEnable), ("one_process_model", .oneProcessModel),
    ("xferlog_std_format", .xferlogStdFormat), ("pasv_promiscuous", .pasvPromiscuous),
    ("deny_email_enable", .denyEmailEnable), ("chroot_list_enable", .chrootListEnable),
    ("setproctitle_enable", .setproctitleEnable), ("text_userdb_names", .textUserdbNames),
    ("ls_recurse_enable", .lsRecurseEnable), ("log_ftp_protocol", .logFtpProtocol),
    ("guest_enable", .guestEnable), ("userlist_enable", .userlistEnable),
    ("userlist_deny", .userlistDeny), ("use_localtime", .useLocaltime),
    ("check_shell", .checkShell), ("hide_ids", .hideIds), ("listen", .listen),
    ("port_promiscuous", .portPromiscuous), ("passwd_chroot_enable", .passwdChrootEnable),
    ("no_anon_password", .noAnonPassword), ("tcp_wrappers", .tcpWrappers),
    ("use_sendfile", .useSendfile), ("force_dot_files", .forceDotFiles),
    ("listen_ipv6", .listenIpv6), ("dual_log_enable", .dualLogEnable),
    ("syslog_enable", .syslogEnable), ("background", .background),
    ("virtual_use_local_privs", .virtualUseLocalPrivs), ("session_support", .sessionSupport),
    ("download_enable", .downloadEnable), ("dirlist_enable", .dirlistEnable),
    ("chmod_enable", .chmodEnable), ("secure_email_list_enable", .secureEmailListEnable),
    ("run_as_launching_user", .runAsLaunchingUser), ("no_log_lock", .noLogLock),
    ("ssl_enable", .sslEnable), ("allow_anon_ssl", .allowAnonSsl),
    ("force_local_logins_ssl", .forceLocalLoginsSsl),
    ("force_local_data_ssl", .forceLocalDataSsl), ("ssl_sslv2", .sslv2), ("ssl_sslv3", .sslv3),
    ("ssl_tlsv1", .tlsv1), ("tilde_user_enable", .tildeUserEnable),
    ("force_anon_logins_ssl", .forceAnonLoginsSsl), ("force_anon_data_ssl", .forceAnonDataSsl),
    ("mdtm_write", .mdtmWrite), ("lock_upload_files", .lockUploadFiles),
    ("pasv_addr_resolve", .pasvAddrResolve), ("debug_ssl", .debugSsl),
    ("require_cert", .requireCert), ("validate_cert", .validateCert),
    ("strict_ssl_read_eof", .strictSslReadEof),
    ("strict_ssl_write_shutdown", .strictSslWriteShutdown),
    ("ssl_request_cert", .sslRequestCert), ("delete_failed_uploads", .deleteFailedUploads),
    ("implicit_ssl", .implicitSsl), ("ptrace_sandbox", .ptraceSandbox),
    ("require_ssl_reuse", .requireSslReuse), ("isolate", .isolate),
    ("isolate_network", .isolateNetwork), ("ftp_enable", .ftpEnable),
    ("http_enable", .httpEnable), ("seccomp_sandbox", .seccompSandbox),
    ("allow_writeable_chroot", .allowWriteableChroot)]

def parseconfUintArray : List (Bytes × UintTunable) :=
  nameTable [
    ("accept_timeout", .acceptTimeout), ("connect_timeout", .connectTimeout),
    ("local_umask", .localUmask), ("anon_umask", .anonUmask), ("ftp_data_port", .ftpDataPort),
    ("idle_session_timeout", .idleSessionTimeout),
    ("data_connection_timeout", .dataConnectionTimeout), ("pasv_min_port", .pasvMinPort),
    ("pasv_max_port", .pasvMaxPort), ("anon_max_rate", .anonMaxRate),
    ("local_max_rate", .localMaxRate), ("listen_port", .listenPort),
    ("max_clients", .maxClients), ("file_open_mode", .fileOpenMode), ("max_per_ip", .maxPerIp),
    ("trans_chunk_size", .transChunkSize), ("delay_failed_login", .delayFailedLogin),
    ("delay_successful_login", .delaySuccessfulLogin), ("max_login_fails", .maxLoginFails),
    ("chown_upload_mode", .chownUploadMode)]

/-- Every variable has one name. -/
theorem variables_nodup :
    (parseconfStrArray.map Prod.snd).Nodup ∧ (parseconfBoolArray.map Prod.snd).Nodup ∧
      (parseconfUintArray.map Prod.snd).Nodup := by
  decide +kernel

end Vsftpd.Parseconf
