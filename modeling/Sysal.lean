import Sysal.Model.System
import Sysal.Parser.AcceleratorInventory
import Sysal.Parser.CpuNuma
import Sysal.Parser.CpuPrecedence
import Sysal.Resolver.AcceleratorSelection
import Sysal.Resolver.AcceleratorVisibility
import Sysal.Resolver.Resolve
import Sysal.Model.Errors
import Sysal.Resolver.HardwareHealth
import Sysal.Pipeline.Pipeline
import Sysal.Pipeline.DomainIndependence
import Sysal.Foundation.Json
import Sysal.Foundation.JsonCodec
import Sysal.Serialization.JsonValues
import Sysal.Serialization.Platform
import Sysal.Serialization.Execution
import Sysal.Serialization.Accelerator
import Sysal.Serialization.Pci
import Sysal.Serialization.Software
import Sysal.Serialization.Network
import Sysal.Serialization.Memory
import Sysal.Model.CpuFeatures
import Sysal.Foundation.Decimal
import Sysal.Serialization.Cpu
import Sysal.Serialization.StorageHealth
import Sysal.Serialization.Storage
import Sysal.Foundation.JsonLibrary
import Sysal.Serialization.Hardware
import Sysal.Serialization.RawStore
import Sysal.Serialization.Serialize
import Sysal.Pipeline.ReplayFidelity
import Sysal.Serialization.DecoderExactness
import Sysal.Parser.CpuListAcceptance
import Sysal.Foundation.FsPath
import Sysal.Foundation.LimitSummary
import Sysal.Parser.Cgroup
import Sysal.Resolver.InventorySoundness
import Sysal.Reader.Cgroup
import Sysal.Reader.CgroupWalk
import Sysal.Parser.Execution
import Sysal.Reader.Environment
import Sysal.Parser.AcceleratorIdentity
import Sysal.Parser.Accelerator
import Sysal.Resolver.VisibilityFlow
import Sysal.Parser.RuntimeVisibility
import Sysal.Foundation.FixedWidth
import Sysal.Parser.MemoryTopology
import Sysal.Parser.Memory
import Sysal.Parser.Network
import Sysal.Parser.BlockDevices
import Sysal.Parser.CpuNumbers
import Sysal.Parser.NumericEvidence
import Sysal.Parser.UnitScaling
import Sysal.Model.CpuFeatureReports
import Sysal.Parser.CpuCaches
import Sysal.Parser.CpuPolicies
import Sysal.Parser.PciAddresses
import Sysal.Resolver.CsvSelectors
import Sysal.Resolver.SyclSelectors
import Sysal.Parser.Pci
import Sysal.Parser.PciDevices
import Sysal.Parser.LspciLines
import Sysal.Parser.AcceleratorNuma
import Sysal.Parser.MountInfo
import Sysal.Parser.MountRecords
import Sysal.Resolver.HealthEvidence
import Sysal.Pipeline.HealthCoverage
import Sysal.Reader.MountEscapes
import Sysal.Serialization.HealthCounters
import Sysal.Parser.Filesystems
import Sysal.Reader.Filesystems
import Sysal.Parser.LegacyMounts
import Sysal.Parser.StorageTopology
import Sysal.Parser.Storage
import Sysal.Parser.StorageClassification
import Sysal.Parser.StorageConnections
import Sysal.Parser.EdacAssociation
import Sysal.Parser.EdacLocations
import Sysal.Pipeline.FilesystemReports
import Sysal.Foundation.StrictWeakOrder
import Sysal.Resolver.PciOrder
import Sysal.Foundation.ShellWords
import Sysal.Reader.ShellCommands
import Sysal.Resolver.CpuVisibility
import Sysal.Foundation.Agreement
import Sysal.Parser.FixedPoint
import Sysal.Parser.MemoryAggregates
import Sysal.Pipeline.EdacNuma
import Sysal.Resolver.SensorAlerts
import Sysal.Parser.Sensors
import Sysal.Parser.SensorChannels
import Sysal.Parser.StorageHealth
import Sysal.Parser.HealthReports
import Sysal.Foundation.LastWrite
import Sysal.Parser.Platform
import Sysal.Parser.Software
import Sysal.Pipeline.Replay
import Sysal.Pipeline.EvidenceLocality
import Sysal.Foundation.EventMachine
import Sysal.Pipeline.EvidenceStreams
import Sysal.Reader.Command
import Sysal.Reader.CommandRuns
import Sysal.Reader.CommandProgress
import Sysal.Foundation.DecoderImage
import Sysal.Serialization.DecodedRanges
import Sysal.Pipeline.ReplayRanges
import Sysal.Reader.FilesystemStats
import Sysal.Pipeline.FilesystemUsage
import Sysal.Reader.StorageHealth
import Sysal.Pipeline.HealthQueries
import Sysal.Reader.Sysfs
import Sysal.Reader.SysfsDevices
import Sysal.Reader.Accelerator
import Sysal.Reader.Machine
import Sysal.Pipeline.Collection
import Sysal.Parser.CpuEvidence
import Sysal.Parser.CpuFields
import Sysal.Parser.StatusNumbers
import Sysal.Parser.MemoryNumbers
import Sysal.Parser.AcceleratorNumbers
import Sysal.Foundation.Ranks
import Sysal.Parser.CpuNumbering
