import PlatformLayer.DescriptorSet
import PlatformLayer.Device.Driver
import PlatformLayer.Device.Emulation
import PlatformLayer.Device.FileTree
import PlatformLayer.Device.Path
import PlatformLayer.Device.Service
import PlatformLayer.Errno
import PlatformLayer.Fault
import PlatformLayer.Host.Descriptors
import PlatformLayer.Host.Devices
import PlatformLayer.Host.KernelSet
import PlatformLayer.Host.Network
import PlatformLayer.Main
import PlatformLayer.Memory.Copy
import PlatformLayer.Memory.Mapping
import PlatformLayer.Memory.Process
import PlatformLayer.Net.Address
import PlatformLayer.Net.Address.Parse
import PlatformLayer.Net.SockAddr
import PlatformLayer.Platform
import PlatformLayer.Probe.Actions
import PlatformLayer.Probe.Commands
import PlatformLayer.Probe.Flags
import PlatformLayer.Probe.Pages
import PlatformLayer.Probe.Run
import PlatformLayer.Proofs.DescriptorSet
import PlatformLayer.Proofs.Device.Calls
import PlatformLayer.Proofs.Device.Fifo
import PlatformLayer.Proofs.Device.Registry
import PlatformLayer.Proofs.Device.Select
import PlatformLayer.Proofs.Device.Table
import PlatformLayer.Proofs.Gating
import PlatformLayer.Proofs.Net.Digits
import PlatformLayer.Proofs.Net.Groups
import PlatformLayer.Proofs.SetSteps
import PlatformLayer.Session.Address
import PlatformLayer.Session.Cli
import PlatformLayer.Session.Device
import PlatformLayer.Session.DeviceFiles
import PlatformLayer.Session.Handles
import PlatformLayer.Session.Json
import PlatformLayer.Session.Layer
import PlatformLayer.Session.Memory
import PlatformLayer.Session.Net
import PlatformLayer.Session.Platform
import PlatformLayer.Session.Read
import PlatformLayer.Session.Run
import PlatformLayer.Session.Sets
import PlatformLayer.Session.Socket
import PlatformLayer.Session.Terminal
import PlatformLayer.Session.Time
import PlatformLayer.Session.Value
import PlatformLayer.Socket.Basic
import PlatformLayer.Socket.Script
import PlatformLayer.Socket.Service
import PlatformLayer.Terminal
import PlatformLayer.Text.Columns
import PlatformLayer.Text.Hex
import PlatformLayer.Text.IntLiteral
import PlatformLayer.Text.Printable
import PlatformLayer.Text.Quoted
import PlatformLayer.Time.Clock
import PlatformLayer.Time.Tick
import PlatformLayer.Proofs.SetSteps
import PlatformLayer.Proofs.Net.Ip6Text
import PlatformLayer.Proofs.Net.RoundTrip
import PlatformLayer.Proofs.Memory.Mapping
import PlatformLayer.Proofs.Device.Open
import PlatformLayer.Proofs.Net.DottedQuad
import PlatformLayer.Proofs.Time.Elapsed
import PlatformLayer.Proofs.Memory.Copy
import PlatformLayer.Proofs.Net.Conversions
import PlatformLayer.Proofs.Socket.Wait
import PlatformLayer.Proofs.KernelSet
