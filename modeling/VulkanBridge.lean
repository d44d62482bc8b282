import VulkanBridge.HandleTableMap
import VulkanBridge.LifecycleHistory
import VulkanBridge.CommandBatchRoundTrip
import VulkanBridge.ReplayedStream
import VulkanBridge.Recordings
import VulkanBridge.RingDelivery
import VulkanBridge.FrameFailures
import VulkanBridge.RingFailures
import VulkanBridge.MirrorStores
import VulkanBridge.LastWriter
import VulkanBridge.NativeLifetimes
import VulkanBridge.FrameDelivery
import VulkanBridge.FrameWakeups
import VulkanBridge.StreamHistory
import VulkanBridge.MetadataPairing
import VulkanBridge.LeaseLifetimes
import VulkanBridge.SubmitChecks
import VulkanBridge.RefusedFrames
import VulkanBridge.ReportsInTime
import VulkanBridge.PacketStreams
import VulkanBridge.DescriptorFormats
import VulkanBridge.DeviceCreateFormat
import VulkanBridge.MappedRanges
import VulkanBridge.SwapchainReadiness
import VulkanBridge.FrameSync
import VulkanBridge.OwnershipCache
import VulkanBridge.DescriptorSets
import VulkanBridge.TemplateArrival
import VulkanBridge.JournalTransparency
import VulkanBridge.SharedBatches
import VulkanBridge.PreparationTrace
import VulkanBridge.FailedPreparation
import VulkanBridge.MirrorAccounting
import VulkanBridge.ParsingBounds
import VulkanBridge.SealedStreams
import VulkanBridge.TransportAgreement
import VulkanBridge.SlotLeases
import VulkanBridge.ReplayedLogs
