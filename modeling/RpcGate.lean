import RpcGate.Access.Authenticator
import RpcGate.Access.Options
import RpcGate.Access.Whitelist
import RpcGate.Codec.Base64
import RpcGate.Codec.Hex
import RpcGate.Command.Action
import RpcGate.Command.Arguments
import RpcGate.Command.Grammar
import RpcGate.Command.Param
import RpcGate.Command.Progress
import RpcGate.Command.Refusal
import RpcGate.Command.Report
import RpcGate.Command.Run
import RpcGate.Cookie.Permissions
import RpcGate.Cookie.Provision
import RpcGate.Credential.Directive
import RpcGate.Credential.Entry
import RpcGate.Credential.Error
import RpcGate.Credential.Registry
import RpcGate.Digest.Sha256
import RpcGate.Files.Fault
import RpcGate.Files.Path
import RpcGate.Files.System
import RpcGate.Http.Framing
import RpcGate.Http.Message
import RpcGate.Json.Binary64
import RpcGate.Json.Number
import RpcGate.Json.Reader
import RpcGate.Json.Token
import RpcGate.Json.Value
import RpcGate.Listener.Call
import RpcGate.Listener.Service
import RpcGate.Listener.Startup
import RpcGate.Logging.Filter
import RpcGate.Logging.Level
import RpcGate.Logging.Pattern
import RpcGate.Main
import RpcGate.Net.Address
import RpcGate.Proofs.BasicHeader
import RpcGate.Proofs.Decision
import RpcGate.Proofs.Replay
import RpcGate.Settings.Basic
import RpcGate.Settings.Setting
import RpcGate.Text.Basic
import RpcGate.Text.Letters
import RpcGate.Text.Quoted
import RpcGate.Text.Utf8
import RpcGate.Proofs.FailClosed
import RpcGate.Proofs.Printing
import RpcGate.Proofs.Reading
import RpcGate.Proofs.RequestTable
import RpcGate.Proofs.Walk
import RpcGate.Proofs.Locate
import RpcGate.Proofs.Draft
import RpcGate.Proofs.Publication
import RpcGate.Proofs.Provisioning
import RpcGate.Proofs.Lifecycle
import RpcGate.Proofs.RequestObject
import RpcGate.Proofs.EntryText
import RpcGate.Proofs.Presentable
import RpcGate.Proofs.Appending
import RpcGate.Proofs.Generated
import RpcGate.Proofs.Established
import RpcGate.Proofs.ClearUndone
import RpcGate.Proofs.EntrySources
import RpcGate.Proofs.Projections
import RpcGate.Proofs.FailedStart
import RpcGate.Proofs.EntryGrammar
import RpcGate.Proofs.MethodAccess
import RpcGate.Proofs.SameTree
import RpcGate.Proofs.SourceOrder
import RpcGate.Proofs.Veiled
import RpcGate.Proofs.Undisclosed
import RpcGate.Proofs.HeaderGrammar
import RpcGate.Proofs.Layout
import RpcGate.Proofs.CredentialFile
import RpcGate.Proofs.SettingGrammar
import RpcGate.Proofs.ReplyForm
import RpcGate.Proofs.PermissionGrammar
import RpcGate.Proofs.PermissionSetting
import RpcGate.Proofs.SharedBits
