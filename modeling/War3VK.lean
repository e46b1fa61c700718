import War3VK.RenderHost.SlotLifecycle
import War3VK.RenderHost.IngressSpec
import War3VK.RenderHost.SlotHostRuns
import War3VK.Memory.ShadowArenaSafety
import War3VK.GpuSkin.ObserveOwnerRuns
import War3VK.GpuSkin.OutputLeases
import War3VK.GpuSkin.RecordingAuthorityEmission
import War3VK.RenderHost.ProtocolSession
import War3VK.Render.ShadowEvents
import War3VK.Render.PrepareWorkerRuns
import War3VK.Tools.TriggerMailbox
import War3VK.Japi.TypedTransportRuns
import War3VK.Japi.RequestPlanes
import War3VK.Japi.ObjectRegistry
import War3VK.Tools.AsyncScreenshotRuns
import War3VK.Model.GeosetGenerations
import War3VK.Model.GeosetIdentity
import War3VK.Model.EpochThreads
import War3VK.GpuSkin.PackageOwner
import War3VK.Memory.StormRepair
import War3VK.GpuSkin.PackageReads
import War3VK.GpuSkin.PackageObserverRuns
import War3VK.GpuSkin.UploadLedgerRuns
import War3VK.Render.SettingsMailbox
import War3VK.Model.SkinPaletteRuns
import War3VK.Render.FrameHashIndex
import War3VK.Memory.IndexDomainCache
import War3VK.Render.WorkloadGovernorRuns
import War3VK.Render.PaletteDiagnostics
import War3VK.Render.TransparentQueue
import War3VK.Render.GroupPaletteResult
import War3VK.Render.BatchSubmitRuns
import War3VK.Shadow.AlphaMetadata
import War3VK.Tools.PaletteEvidenceRuns
import War3VK.Model.RegistryCounts
import War3VK.Render.RegistryGenerations
import War3VK.Render.ActiveLedger
import War3VK.Tools.FrameTimelineSpec
import War3VK.Render.ReplayValidationSpec
import War3VK.Model.NativeLightSpec
import War3VK.Model.RelocatedEntry
import War3VK.Hooks.NativeCall
import War3VK.Hooks.NativePlanCache
import War3VK.Tools.CollectionTree
import War3VK.Shadow.BuildLifecycle
import War3VK.Render.GenerationStability
import War3VK.Memory.SnapshotSlices
import War3VK.Memory.ShadowArenaAccounts
import War3VK.Tools.PaletteTable
import War3VK.Render.IdentityIndexes
import War3VK.Model.PoseArrayRanges
import War3VK.Shadow.FrameSelect
import War3VK.RenderHost.HistorySession
