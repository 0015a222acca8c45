import Sysal.Model.Enums
import Sysal.Model.Values

/-!
# Network interfaces and RDMA devices

The interfaces of the network namespace and the RDMA devices with their ports.
-/

namespace Sysal

abbrev RdmaDeviceId := UInt32
abbrev RdmaPortNumber := UInt32
abbrev RdmaLid := UInt32

inductive RdmaNodeType where
  | unknown | channelAdapter | switch | router | rnic | usnic | usnicUdp
  deriving DecidableEq, Inhabited

instance : CEnum RdmaNodeType where
  enumerators := [.unknown, .channelAdapter, .switch, .router, .rnic, .usnic, .usnicUdp]
  code := RdmaNodeType.ctorIdx
  enumerators_code := by intro a; cases a <;> rfl

inductive RdmaPortState where
  | unknown | down | init | armed | active | activeDeferred
  deriving DecidableEq, Inhabited

instance : CEnum RdmaPortState where
  enumerators := [.unknown, .down, .init, .armed, .active, .activeDeferred]
  code := RdmaPortState.ctorIdx
  enumerators_code := by intro a; cases a <;> rfl

inductive RdmaPhysicalState where
  | unknown | sleep | polling | disabled | training | linkUp | recovery | phyTest
  deriving DecidableEq, Inhabited

instance : CEnum RdmaPhysicalState where
  enumerators :=
    [.unknown, .sleep, .polling, .disabled, .training, .linkUp, .recovery, .phyTest]
  code := RdmaPhysicalState.ctorIdx
  enumerators_code := by intro a; cases a <;> rfl

inductive RdmaLinkLayer where
  | unknown | infiniBand | ethernet
  deriving DecidableEq, Inhabited

instance : CEnum RdmaLinkLayer where
  enumerators := [.unknown, .infiniBand, .ethernet]
  code := RdmaLinkLayer.ctorIdx
  enumerators_code := by intro a; cases a <;> rfl

structure RdmaPort where
  number : RdmaPortNumber := 0
  state : RdmaPortState := .unknown
  physicalState : RdmaPhysicalState := .unknown
  linkLayer : RdmaLinkLayer := .unknown
  rateReport : Bytes := []
  rate : Option Bandwidth := none
  lid : Option RdmaLid := none
  subnetManagerLid : Option RdmaLid := none
  subnetManagerSl : Option UInt8 := none
  lidMaskCount : Option UInt8 := none
  capabilityMask : Option UInt32 := none
  networkInterfaces : List Bytes := []
  deriving DecidableEq, Inhabited

structure RdmaDevice where
  id : RdmaDeviceId := 0
  name : Bytes := []
  nodeType : RdmaNodeType := .unknown
  description : Bytes := []
  nodeGuid : Bytes := []
  systemImageGuid : Bytes := []
  firmwareVersion : Bytes := []
  driver : Bytes := []
  pciAddress : Option PciAddress := none
  numaNode : Option NumaNodeId := none
  vendor : Bytes := []
  deviceName : Bytes := []
  networkInterfaces : List Bytes := []
  ports : List RdmaPort := []
  deriving DecidableEq, Inhabited

structure RdmaInventory where
  status : CollectStatus := .notCollected
  failure : Option ReadFailure := some .notProvided
  devices : List RdmaDevice := []
  deriving DecidableEq, Inhabited

structure NetworkInterface where
  name : Bytes := []
  mac : Bytes := []
  state : InterfaceState := .unknown
  speed : Option Bandwidth := none
  addresses : List Bytes := []
  pciAddress : Option PciAddress := none
  visibleToCurrentProcess : Bool := false
  mtu : Option MemorySize := none
  carrier : Option Bool := none
  duplex : Bytes := []
  driver : Bytes := []
  physicalPortName : Bytes := []
  numaNode : Option NumaNodeId := none
  interfaceIndex : Option UInt32 := none
  vendor : Bytes := []
  deviceName : Bytes := []
  firmwareVersion : Bytes := []
  driverVersion : Bytes := []
  permanentMac : Option Bytes := none
  autonegotiation : Option Bool := none
  supportedLinkModes : List Bytes := []
  advertisedLinkModes : List Bytes := []
  peerLinkModes : List Bytes := []
  master : Option Bytes := none
  lowerInterfaces : List Bytes := []
  interfaceKind : Bytes := []
  bondMode : Bytes := []
  vlanId : Option UInt32 := none
  vlanParent : Option Bytes := none
  deriving DecidableEq, Inhabited

structure Network where
  interfaces : List NetworkInterface := []
  rdma : RdmaInventory := {}
  deriving DecidableEq, Inhabited

end Sysal
