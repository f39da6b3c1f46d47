import MyChat.Lib.ShiftRegister
import MyChat.Lib.Varint
import MyChat.Codec.Crc32
import MyChat.Codec.ProtobufCodec
import MyChat.Codec.Envelope
import MyChat.Lib.JsNumber
import MyChat.Codec.WebEnvelope
import MyChat.Codec.Agreement
import MyChat.Codec.TwoDecoders
import MyChat.Lib.WireFormat
import MyChat.Codec.WebMessages
import MyChat.Codec.WebRoundTrip
import MyChat.Codec.WebRecords
import MyChat.Codec.WebSections
import MyChat.Lib.Run
import MyChat.Registry.ConnectionManager
import MyChat.Registry.Consistency
import MyChat.Registry.LateDisconnect
import MyChat.Lib.Table
import MyChat.Chat.MessageService
import MyChat.Chat.Status
import MyChat.Chat.Controllers
import MyChat.Chat.DeliveryFrame
import MyChat.Chat.AcknowledgedPush
import MyChat.Auth.MultiPlatformAuth
import MyChat.Auth.Revocation
import MyChat.Lib.ByteText
import MyChat.Auth.PasswordHasher
import MyChat.Auth.StoredHash
import MyChat.Network.WriteQueue
import MyChat.Network.WebSocketServer
import MyChat.Network.SessionLifecycle
import MyChat.Network.ServerStop
import MyChat.Gateway.InflightMessages
import MyChat.Lib.CompositeKey
import MyChat.Registry.FiniteMap
import MyChat.Gateway.Sessions
import MyChat.Gateway.SingleLogin
import MyChat.Gateway.SessionBinding
import MyChat.Auth.RefreshToken
import MyChat.Auth.RefreshExpiry
import MyChat.Auth.RefreshIdentity
import MyChat.Lib.Throwing
import MyChat.Auth.TokenIssue
import MyChat.Auth.IssuedTokens
import MyChat.Gateway.MessageProcessor
import MyChat.Gateway.ProtoBytes
import MyChat.Gateway.SenderAuthenticity
import MyChat.Gateway.ReplyHeaders
import MyChat.Chat.RemoteMessages
import MyChat.Chat.RemotePush
import MyChat.Lib.ExactRead
import MyChat.Lib.Interleaving
import MyChat.Lib.Query
import MyChat.Network.TcpFraming
import MyChat.Network.TcpOutput
import MyChat.Social.FriendRequests
import MyChat.Social.GroupMembership
import MyChat.Social.UserRow
import MyChat.Gateway.Router
import MyChat.Gateway.RouterReload
import MyChat.Gateway.FailedReload
import MyChat.Gateway.ServiceLookup
import MyChat.Lib.Chunks
import MyChat.Gateway.MessageBatch
import MyChat.Social.RemoteUsers
import MyChat.Social.UserTransparency
import MyChat.Social.Reading
import MyChat.Social.GroupSearch
import MyChat.Social.RemoteFriends
import MyChat.Social.RemoteGroups
import MyChat.Social.SocialErrors
import MyChat.Social.SocialTransparency
import MyChat.Common.ThreadPool
import MyChat.Common.RedisPool
import MyChat.Common.ConnectionPool
import MyChat.Common.FutureAwaiter
import MyChat.Lib.Paging
import MyChat.Chat.OfflineDrain
import MyChat.Chat.PushFanout
import MyChat.Chat.ConversationHistory
import MyChat.Lib.CursorPaging
import MyChat.Social.GroupHistory
import MyChat.Lib.Exchanges
import MyChat.Social.OwnMessage
import MyChat.Lib.PolyRegister
import MyChat.Codec.CrcReference
import MyChat.Lib.JsonText
import MyChat.Chat.PushContextText
import MyChat.Network.TcpServer
import MyChat.Lib.TextSearch
import MyChat.Network.HandshakeToken
import MyChat.Lib.Conninfo
import MyChat.Common.PgSqlConfig
import MyChat.Gateway.NumericUids
import MyChat.Lib.JsonPointer
import MyChat.Common.ConfigManager
import MyChat.Common.ConfigViews
import MyChat.Common.EnvFile
import MyChat.Web.DirectMessages
import MyChat.Web.Acknowledgement
import MyChat.Lib.Warrants
import MyChat.Social.Permissions
import MyChat.Social.Authority
import MyChat.Social.Accounts
import MyChat.Gateway.ProtoMessages
import MyChat.Lib.Matching
import MyChat.Web.WireMessages
import MyChat.Web.WireTransparency
import MyChat.Delivery.Requests
import MyChat.Delivery.Alone
import MyChat.Delivery.Entitlement
import MyChat.Delivery.Warranted
import MyChat.Delivery.Privacy
