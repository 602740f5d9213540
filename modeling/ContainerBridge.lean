import ContainerBridge.Address.Crossing
import ContainerBridge.Address.Types
import ContainerBridge.Archive.Streaming
import ContainerBridge.Archive.Xattrs
import ContainerBridge.Blocking.Code
import ContainerBridge.Blocking.Configuring
import ContainerBridge.Blocking.Heeding
import ContainerBridge.Blocking.Pool
import ContainerBridge.Blocking.Runs
import ContainerBridge.Blocking.Starved
import ContainerBridge.Build.Glue
import ContainerBridge.Build.Main
import ContainerBridge.Build.Modules
import ContainerBridge.Build.Runs
import ContainerBridge.Build.Shims
import ContainerBridge.Build.Staging
import ContainerBridge.Build.Touched
import ContainerBridge.Closure.Configuring
import ContainerBridge.Closure.Creating
import ContainerBridge.Closure.Deliveries
import ContainerBridge.Closure.Error
import ContainerBridge.Closure.Progress
import ContainerBridge.Closure.Protocol
import ContainerBridge.Container.Address
import ContainerBridge.Container.Cases
import ContainerBridge.Container.Crossing
import ContainerBridge.Container.External
import ContainerBridge.Container.Fill
import ContainerBridge.Container.Filled
import ContainerBridge.Container.PodCrossing
import ContainerBridge.Container.Processes
import ContainerBridge.Container.Rust
import ContainerBridge.Container.Swift
import ContainerBridge.Ext4.Formatting
import ContainerBridge.Ext4.Structs
import ContainerBridge.Ext4.Timestamps
import ContainerBridge.Image.Crossing
import ContainerBridge.Image.Types
import ContainerBridge.Library.Callback
import ContainerBridge.Library.Carry
import ContainerBridge.Library.FileTree
import ContainerBridge.Library.Layout
import ContainerBridge.Library.Log
import ContainerBridge.Library.Rounding
import ContainerBridge.Library.Run
import ContainerBridge.Library.Tiles
import ContainerBridge.Mirror.Code
import ContainerBridge.Mirror.Kinds
import ContainerBridge.Mirror.Skipped
import ContainerBridge.Mirror.Steps
import ContainerBridge.Os.Calls
import ContainerBridge.Os.FileDescriptorOps
import ContainerBridge.Os.Owned
import ContainerBridge.Outcome
import ContainerBridge.Runtime.Bytes
import ContainerBridge.Runtime.Crossing
import ContainerBridge.Runtime.Dates
import ContainerBridge.Runtime.Duration
import ContainerBridge.Runtime.Maps
import ContainerBridge.Runtime.Seconds
import ContainerBridge.Spec.Cases
import ContainerBridge.Spec.Reading
import ContainerBridge.Spec.RoundTrip
import ContainerBridge.Spec.Rust
import ContainerBridge.Spec.Swift
import ContainerBridge.Statistics.Reading
import ContainerBridge.Statistics.Types
import ContainerBridge.Stdio.Cancelled
import ContainerBridge.Stdio.Invariant
import ContainerBridge.Stdio.Process
import ContainerBridge.Stdio.Reader
import ContainerBridge.Stdio.Runs
import ContainerBridge.Stdio.Writers
import ContainerBridge.VM.Configuration
import ContainerBridge.Vsock.Delivered
import ContainerBridge.Vsock.Listener
import ContainerBridge.Vsock.Runs
import ContainerBridge.Wrapper
