import DeviceLayer.Session.Run
import DeviceLayer.Proofs.Recorder
import DeviceLayer.Proofs.Refinement
import DeviceLayer.Proofs.Reuse
import DeviceLayer.Proofs.Bindings
import DeviceLayer.Proofs.Promises
import DeviceLayer.Proofs.LaunchFrame
import DeviceLayer.Proofs.Failures
import DeviceLayer.Proofs.MemoryFailures
import DeviceLayer.Proofs.WriteBacks
import DeviceLayer.Proofs.CommandMemory
import DeviceLayer.Proofs.LockedBinders
import DeviceLayer.Proofs.Tables
import DeviceLayer.Proofs.Snapshots
import DeviceLayer.Proofs.Aging
import DeviceLayer.Proofs.Handles
import DeviceLayer.Proofs.Refusals
import DeviceLayer.Proofs.NativeSafety
import DeviceLayer.Proofs.Trackers
import DeviceLayer.Proofs.Transfers
import DeviceLayer.Proofs.SharedObjects
import DeviceLayer.Proofs.FrameTurns
import DeviceLayer.Proofs.Registration
import DeviceLayer.Proofs.BoundGroups
import DeviceLayer.Proofs.BoundWindows
import DeviceLayer.Proofs.MinimumSizes
import DeviceLayer.Proofs.MergedStages
import DeviceLayer.Proofs.BindingOverflow
import DeviceLayer.Proofs.KernelLaunches
import DeviceLayer.Proofs.PassBeginnings
import DeviceLayer.Proofs.VertexSlots
import DeviceLayer.Proofs.LiveFramebuffers
import DeviceLayer.Proofs.HostHandles
import DeviceLayer.Proofs.PipelineVariants
import DeviceLayer.Proofs.RangeRequests
import DeviceLayer.Proofs.NativeSizes
import DeviceLayer.Proofs.DescriptorPools
import DeviceLayer.Proofs.SetLayouts
