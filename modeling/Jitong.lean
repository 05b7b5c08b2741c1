import Jitong.Accounts
import Jitong.AiContextBuilder
import Jitong.AiReplies
import Jitong.AiRequestLimiter
import Jitong.AiSuggestions
import Jitong.AuthDiscipline
import Jitong.BusinessTraffic
import Jitong.CancelRace
import Jitong.ChannelRuns
import Jitong.ChannelTwins
import Jitong.ChatForwarded
import Jitong.ChunkTiling
import Jitong.ChunkWrites
import Jitong.CloseReports
import Jitong.ConnectedLogin
import Jitong.ConversationMigration
import Jitong.DbCommandQueue
import Jitong.DbKeyManager
import Jitong.DeliveryRace
import Jitong.DeviceIdentity
import Jitong.DownloadTasks
import Jitong.ExpiryGates
import Jitong.FileAccess
import Jitong.FinalizeRace
import Jitong.FramedStream
import Jitong.FriendGraph
import Jitong.FriendRequests
import Jitong.GapFlight
import Jitong.GapTermination
import Jitong.GarbageCollection
import Jitong.HistoryPages
import Jitong.IdentityAgreement
import Jitong.InstantProof
import Jitong.InvalidationDelivery
import Jitong.Lib.Fields
import Jitong.Lib.Occurrences
import Jitong.Lib.Repeats
import Jitong.Lib.Slots
import Jitong.LoginRefusals
import Jitong.LogoutCompletes
import Jitong.MediaCredentials
import Jitong.MediaDownload
import Jitong.MigrationWire
import Jitong.PinyinIndex
import Jitong.ProofBinding
import Jitong.ReadPool
import Jitong.Reconciliation
import Jitong.RefreshReplay
import Jitong.RefreshWedge
import Jitong.RefusedStart
import Jitong.RoamFrames
import Jitong.RoamPages
import Jitong.RoomMigration
import Jitong.SafeCut
import Jitong.SearchHighlights
import Jitong.SearchInitials
import Jitong.SearchService
import Jitong.SecureSends
import Jitong.SnapshotImport
import Jitong.SyncRestart
import Jitong.UnreadCounts
import Jitong.UploadSessions
import Jitong.UsableSessions
