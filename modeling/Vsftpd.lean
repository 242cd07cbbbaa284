import Vsftpd.Seccomp.FirstMatch
import Vsftpd.FtpDataIo.Recv
import Vsftpd.FtpDataIo.Send
import Vsftpd.Standalone.Accounting
import Vsftpd.Ls.DenyFile
import Vsftpd.Ls.SimplePattern
import Vsftpd.Session.ParentSafety
import Vsftpd.IpAddrParse
import Vsftpd.Session.FtpDataIo
import Vsftpd.Session.Replies
import Vsftpd.Lib.Traced
import Vsftpd.Session.Connections
import Vsftpd.Session.Requests
import Vsftpd.Session.Endpoints
import Vsftpd.Session.DataConnections
import Vsftpd.Session.Outline
import Vsftpd.Session.FileCommands
import Vsftpd.Session.EndpointCommands
import Vsftpd.Session.Transfers
import Vsftpd.Session.CommandLoop
import Vsftpd.Session.Guarantees
import Vsftpd.Session.EpsvAll
import Vsftpd.Session.Mediation
import Vsftpd.Session.WriteGating
import Vsftpd.Seccomp.Policy
import Vsftpd.Seccomp.ReadOnly
import Vsftpd.Seccomp.Coverage
import Vsftpd.HashNodes
import Vsftpd.HashRuns
import Vsftpd.Session.PreLogin
import Vsftpd.Session.LoginPolicy
import Vsftpd.Lib.TextBlock
import Vsftpd.MyStr.Holds
import Vsftpd.MyStr.Split
import Vsftpd.MyStr.Runs
import Vsftpd.Session.DirListing
import Vsftpd.Session.DirWalk
import Vsftpd.Session.ListAccess
import Vsftpd.Lib.Doubling
import Vsftpd.Session.ReplyLine
import Vsftpd.NetStr
import Vsftpd.Session.CommandLine
import Vsftpd.Lib.Numerals
import Vsftpd.OctalCodec
import Vsftpd.Session.MdtmDate
import Vsftpd.FreshName
import Vsftpd.Ls.FilterBudget
import Vsftpd.Ls.FilterSound
import Vsftpd.Parseconf.Settings
import Vsftpd.Parseconf.LoadSetting
import Vsftpd.FtpDataIo.Sendfile
import Vsftpd.FtpDataIo.SendfileLaw
import Vsftpd.AsciiStream
import Vsftpd.MyStr.Replace
import Vsftpd.Session.DirOutput
import Vsftpd.Lib.PartialTransfer
import Vsftpd.Parseconf.LeadingSpace
import Vsftpd.SysIo
import Vsftpd.UcharFields
import Vsftpd.Session.PasvReply
import Vsftpd.Ipv6Text
import Vsftpd.Session.FailedUploads
import Vsftpd.Session.StrList
import Vsftpd.Session.ListingOrder
import Vsftpd.Lib.Duplex
import Vsftpd.Ssl.Direct
import Vsftpd.Ssl.Slave
import Vsftpd.Ssl.Equivalence
import Vsftpd.Lib.Pages
import Vsftpd.SecBuf
import Vsftpd.SecBufRelease
import Vsftpd.FileStr
import Vsftpd.AddrEqual
import Vsftpd.Filesize
import Vsftpd.Session.RestOffset
import Vsftpd.PtraceSandbox
import Vsftpd.Session.CommandLists
import Vsftpd.Session.PortRefusal
import Vsftpd.Lib.Fields
import Vsftpd.Logging
import Vsftpd.XferlogFields
import Vsftpd.LogIntegrity
import Vsftpd.Ptrace.Sandbox
import Vsftpd.Ptrace.Supervisor
import Vsftpd.Ptrace.FtpPolicy
import Vsftpd.Ptrace.FtpTables
import Vsftpd.Ptrace.FtpCalls
import Vsftpd.Lib.Credentials
import Vsftpd.Secutil
import Vsftpd.TwoProcess
import Vsftpd.Lib.Wire
import Vsftpd.Login.DoLogin
import Vsftpd.Login.Service
import Vsftpd.Login.Authentication
import Vsftpd.Lib.Budget
import Vsftpd.Session.LoginAttempts
import Vsftpd.Lib.Writes
import Vsftpd.Parseconf.Defaults
import Vsftpd.Parseconf.LoadFile
import Vsftpd.Parseconf.Listener
import Vsftpd.Lib.Since
import Vsftpd.Signals.Framework
import Vsftpd.Signals.Interleavings
import Vsftpd.Signals.Handling
import Vsftpd.Signals.NextCheck
import Vsftpd.Signals.Timer
import Vsftpd.Signals.Progress
