import HyperCom.Lib.Fallible
import HyperCom.Lib.LittleEndian
import HyperCom.Lib.ExactCodec
import HyperCom.Lib.Rows
import HyperCom.Protocol.Limits
import HyperCom.Protocol.ByteCodec
import HyperCom.Protocol.Records
import HyperCom.Protocol.SessionMessages
import HyperCom.Protocol.ContentMessages
import HyperCom.Protocol.SocialMessages
import HyperCom.Protocol.MessageCodec
import HyperCom.Protocol.Frame
import HyperCom.Crypto.Sodium
import HyperCom.Crypto.Noise
import HyperCom.Server.Database
import HyperCom.Server.Repositories
import HyperCom.Server.Connection
import HyperCom.Server.Handlers
import HyperCom.Server.RequestEffect
import HyperCom.Server.Mediation
import HyperCom.Server.Processor
import HyperCom.Lib.Run
import HyperCom.Server.OutputStream
import HyperCom.Server.Runtime
import HyperCom.Server.Authentication
import HyperCom.Server.Inbox
import HyperCom.Client.Exchange
import HyperCom.Client.HexCodec
import HyperCom.Client.Courier
import HyperCom.Client.DirectMessages
import HyperCom.Client.Recipient
import HyperCom.Client.Sender
import HyperCom.Crypto.Keystore
import HyperCom.Client.Registry
import HyperCom.Client.ServerList
import HyperCom.Server.Replies
import HyperCom.Client.ServerConnection
import HyperCom.Client.Pairing
import HyperCom.Lib.Paging
import HyperCom.Server.Mail
import HyperCom.Client.MailSession
import HyperCom.Client.FetchRounds
import HyperCom.Client.Correspondence
import HyperCom.Crypto.Handshake
import HyperCom.Crypto.NonceDiscipline
import HyperCom.Lib.Cutting
import HyperCom.Server.Segmentation
import HyperCom.Server.Banning
import HyperCom.Server.ConfigValidator
import HyperCom.Server.Expiry
import HyperCom.Client.Reconnection
import HyperCom.Client.Integrity
import HyperCom.Lib.Transcript
import HyperCom.Crypto.HandshakeAuthenticity
import HyperCom.Client.Relay
import HyperCom.Lib.FixedWindow
import HyperCom.Server.RateLimits
import HyperCom.Lib.Census
import HyperCom.Server.ConnectionRegistry
import HyperCom.Client.BrokenSends
import HyperCom.Lib.Transactions
import HyperCom.Server.Migrations
import HyperCom.Lib.WriteLoop
import HyperCom.Server.TransactionDiscipline
import HyperCom.Server.Listings
import HyperCom.Server.WholeRequests
import HyperCom.Client.SecretFiles
import HyperCom.Lib.Tickets
import HyperCom.Server.AdminCommand
import HyperCom.Server.AdminService
import HyperCom.Server.EventLoop
import HyperCom.Protocol.ErrorReports
import HyperCom.Client.ReceiveBudget
import HyperCom.Server.ServerKey
import HyperCom.Client.MessageTexts
import HyperCom.Client.InboxEntries
import HyperCom.Lib.CursorWalk
import HyperCom.Server.MailWalk
import HyperCom.Server.TableWrites
import HyperCom.Lib.Forest
import HyperCom.Protocol.TextFields
import HyperCom.Server.StoredRows
import HyperCom.Server.ThreadOrder
import HyperCom.Protocol.ReplySizes
import HyperCom.Server.ThreadAnswers
import HyperCom.Server.RecordReplies
import HyperCom.Protocol.ReaderFailures
import HyperCom.Server.AddressCap
import HyperCom.Server.AdminReclaim
import HyperCom.Server.EndOfStream
import HyperCom.Server.CommentViews
import HyperCom.Protocol.UnicodeText
import HyperCom.Server.AdminReports
import HyperCom.Server.Deletion
import HyperCom.Lib.SparseList
import HyperCom.Server.Top8
import HyperCom.Crypto.KeystoreTampering
import HyperCom.Crypto.MessageChain
import HyperCom.Crypto.PhraseRoundTrip
import HyperCom.Client.SeedRecovery
import HyperCom.Client.InviteLinks
import HyperCom.Client.OnionServers
import HyperCom.Client.RegistryUpdates
import HyperCom.Lib.TextLines
import HyperCom.Server.AdminTool
import HyperCom.Server.ReportList
import HyperCom.Server.ConfigText
import HyperCom.Client.Socks5Connector
import HyperCom.Server.Confidentiality
import HyperCom.Server.AdminSight
import HyperCom.Server.Announcements
import HyperCom.Server.SchemaInvariant
import HyperCom.Lib.OffsetWalk
import HyperCom.Server.PagedListings
import HyperCom.Server.SilentAccount
import HyperCom.Server.PublishedPrekeys
