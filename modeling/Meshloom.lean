import Meshloom.AsyncLock
import Meshloom.Backup.BackupCrypto
import Meshloom.Backup.BackupCryptoProofs
import Meshloom.Backup.IdentityDecision
import Meshloom.Backup.IdentityRestore
import Meshloom.Backup.IdentityRestoreProofs
import Meshloom.Base64
import Meshloom.BlockCipher
import Meshloom.Bytes
import Meshloom.BytesLiteral
import Meshloom.Channels.DecryptIndex
import Meshloom.Community.IataBind
import Meshloom.Community.ObserverReach
import Meshloom.Community.ObserverReachProofs
import Meshloom.Community.OptOut
import Meshloom.Community.OptOutProofs
import Meshloom.Community.RadioPosition
import Meshloom.Community.RadioPositionProofs
import Meshloom.Community.StatusClear
import Meshloom.Community.StatusClearProofs
import Meshloom.Contacts.ContactRepository
import Meshloom.Contacts.PrefixResolution
import Meshloom.Contacts.TimeMarks
import Meshloom.Dict
import Meshloom.Double
import Meshloom.Exchange
import Meshloom.Fanout.BotSwitch
import Meshloom.Fanout.Manager
import Meshloom.Fanout.ManagerInvariant
import Meshloom.Fanout.Orphans
import Meshloom.Fanout.PublisherLoop
import Meshloom.Fanout.PublisherLoopProofs
import Meshloom.Fanout.RememberedTopic
import Meshloom.Fanout.RetainedStatus
import Meshloom.Fanout.RetainedStatusProofs
import Meshloom.Frontend.ConversationCache
import Meshloom.Frontend.ConversationCacheProofs
import Meshloom.Frontend.ConversationWindow
import Meshloom.Frontend.ConversationWindowPages
import Meshloom.Frontend.ConversationWindowProofs
import Meshloom.Frontend.Message
import Meshloom.Frontend.MessageView
import Meshloom.Frontend.MessageViewProofs
import Meshloom.Frontend.PathDistance
import Meshloom.Frontend.PathDistanceProofs
import Meshloom.Frontend.ReconnectRecovery
import Meshloom.Frontend.ReconnectRecoveryProofs
import Meshloom.Frontend.UnreadBadges
import Meshloom.Frontend.UnreadBadgesProofs
import Meshloom.Incremental
import Meshloom.Json
import Meshloom.KeysetScan
import Meshloom.Latch
import Meshloom.Marks
import Meshloom.Messages.Database
import Meshloom.Messages.DatabaseProofs
import Meshloom.Messages.DmIngest
import Meshloom.Messages.DmRun
import Meshloom.Messages.DmRunProofs
import Meshloom.Messages.PrefixClaim
import Meshloom.Messages.RegionBackfill
import Meshloom.Messages.SenderSeparation
import Meshloom.Messages.SoleContact
import Meshloom.Messages.UnreadCounts
import Meshloom.Messages.UnreadCountsProofs
import Meshloom.Outbox
import Meshloom.Overlap
import Meshloom.Packet.Advertisement
import Meshloom.Packet.AdvertisementProofs
import Meshloom.Packet.DirectMessage
import Meshloom.Packet.DirectMessageProofs
import Meshloom.Packet.Envelope
import Meshloom.Packet.EnvelopeProofs
import Meshloom.Packet.GroupData
import Meshloom.Packet.GroupDataProofs
import Meshloom.Packet.GroupText
import Meshloom.Packet.GroupTextHash
import Meshloom.Packet.GroupTextProofs
import Meshloom.Packet.HistoricalDecryption
import Meshloom.Packet.PacketHistory
import Meshloom.Packet.PacketHistoryProofs
import Meshloom.Packet.Route
import Meshloom.Packet.RouteEditor
import Meshloom.Packet.RouteProofs
import Meshloom.Packet.StoredRoute
import Meshloom.Proxy.ChannelSession
import Meshloom.Proxy.ChannelSessionProofs
import Meshloom.Proxy.DirectSend
import Meshloom.Proxy.DirectSendProofs
import Meshloom.Proxy.FrameAssembler
import Meshloom.Proxy.SendText
import Meshloom.Radio.ChannelSlotProofs
import Meshloom.Radio.ChannelSlots
import Meshloom.Radio.ClockSync
import Meshloom.Radio.ClockSyncProofs
import Meshloom.Radio.CompanionCli
import Meshloom.Radio.CompanionCliProofs
import Meshloom.Radio.ContactReconcile
import Meshloom.Radio.ContactReconcileProofs
import Meshloom.Radio.IngestGate
import Meshloom.Radio.PendingMessages
import Meshloom.Radio.PendingMessagesProofs
import Meshloom.Radio.RadioOperation
import Meshloom.Radio.RadioOperationProofs
import Meshloom.Radio.WifiCredentials
import Meshloom.Radio.WifiCredentialsProofs
import Meshloom.Radio.WifiPrompt
import Meshloom.Radio.WifiPromptProofs
import Meshloom.Radio.WifiStoreMarker
import Meshloom.Radio.WifiStoreMarkerProofs
import Meshloom.Redaction.FrameText
import Meshloom.Redaction.LogRedaction
import Meshloom.Redaction.LogRedactionProofs
import Meshloom.Redaction.SecretFrames
import Meshloom.Replica
import Meshloom.Send.ChannelScope
import Meshloom.Send.ChannelScopeProofs
import Meshloom.Send.DmAck
import Meshloom.Send.DmAckProofs
import Meshloom.Send.OutgoingTimestamp
import Meshloom.Send.OutgoingTimestampProofs
import Meshloom.Settings.PushSettings
import Meshloom.SkipScan
import Meshloom.Sql
import Meshloom.StableSort
import Meshloom.Telemetry.AlertProofs
import Meshloom.Telemetry.AlertRuns
import Meshloom.Telemetry.Alerts
import Meshloom.Text
import Meshloom.TextSearch
import Meshloom.Transition
import Meshloom.Update.AutoApply
import Meshloom.Update.AutoApplyProofs
import Meshloom.Update.HeldUpdates
import Meshloom.Utf8
import Meshloom.WebSocket.Delivery
import Meshloom.WebSocket.Manager
import Meshloom.Window
import Meshloom.Community.IataBindProofs
import Meshloom.Frontend.BufferedAcks
import Meshloom.Aes
import Meshloom.Frontend.ContentKey
import Meshloom.Packet.GroupDataAes
import Meshloom.Proxy.Commands
import Meshloom.Proxy.CommandsProofs
import Meshloom.Redaction.SecretForms
import Meshloom.Redaction.SecretScope
import Meshloom.Contacts.PlaceholderPromotion
import Meshloom.Contacts.PlaceholderPromotionProofs
import Meshloom.Frontend.MessageParser
import Meshloom.Frontend.TextReplace
import Meshloom.Frontend.UrlHash
import Meshloom.Community.DirectoryMapNodes
import Meshloom.Community.Breaker
import Meshloom.FirstOccurrences
import Meshloom.Radio.ContactSelection
import Meshloom.Update.UpdateWindow
import Meshloom.Telemetry.NotificationSecrets
import Meshloom.Regex
import Meshloom.Messages.MessageSearch
import Meshloom.Community.ObserverCounts
import Meshloom.JsValue
import Meshloom.Community.LiveFrame
import Meshloom.Community.LiveFrameProofs
import Meshloom.Community.LiveFrameBrowser
import Meshloom.LinkStore
import Meshloom.Frontend.PacketNetwork
import Meshloom.Frontend.PacketNetworkProofs
import Meshloom.Frontend.PacketNetworkProjection
import Meshloom.Community.TtlLru
import Meshloom.GroupSampling
import Meshloom.Packet.GroupTextSamples
import Meshloom.Fanout.TopicTemplate
import Meshloom.Fanout.MapUpload
import Meshloom.WebSocket.Health
import Meshloom.WebSocket.HealthProofs
import Meshloom.Community.DirectoryNodesCache
import Meshloom.Radio.WifiReboot
import Meshloom.Radio.WifiRebootProofs
import Meshloom.Update.UpdateJob
import Meshloom.Update.UpdateJobProofs
import Meshloom.Fanout.HaDiscovery
import Meshloom.SoleTask
import Meshloom.Fanout.HaDiscoveryProofs
