import LorawanRouting.Identifier.Basic

/-!
Messages between gateways, routers, brokers and handlers. Payloads are bytes. Signal strength and
noise are carried along by their bit patterns and never computed with.
-/

namespace LorawanRouting

abbrev Payload := List UInt8

inductive Modulation
  | lora
  | fsk
  deriving DecidableEq, Repr

structure ProtocolMetadata where
  modulation : Modulation
  dataRate : String
  codingRate : String
  deriving DecidableEq, Repr

/-- How a frame arrived at a gateway; the timestamp counts microseconds of its clock. -/
structure GatewayMetadata where
  gateway : GatewayEui
  timestamp : UInt32
  frequency : UInt64
  rssi : UInt32
  snr : UInt32
  deriving DecidableEq, Repr

structure Uplink where
  payload : Payload
  protocol : ProtocolMetadata
  gateway : GatewayMetadata
  deriving DecidableEq, Repr

structure JoinRequest where
  payload : Payload
  app : AppEui
  dev : DevEui
  protocol : ProtocolMetadata
  gateway : GatewayMetadata
  deriving DecidableEq, Repr

def JoinRequest.toUplink (r : JoinRequest) : Uplink := ⟨r.payload, r.protocol, r.gateway⟩

structure DownlinkOption where
  identifier : String
  gateway : GatewayEui
  timestamp : UInt32
  frequency : UInt64
  dataRate : String
  codingRate : String
  power : Int
  score : UInt32
  deriving DecidableEq, Repr

structure Downlink where
  payload : Payload
  option : Option DownlinkOption
  deriving DecidableEq, Repr

structure JoinParameters where
  app : AppEui
  dev : DevEui
  firstWindowOffset : Nat
  secondDataRate : Nat
  receiveDelay : Nat
  extraChannels : Option (List UInt64)
  deriving DecidableEq, Repr

structure Activation where
  payload : Payload
  app : AppEui
  dev : DevEui
  protocol : ProtocolMetadata
  gateway : GatewayMetadata
  parameters : JoinParameters
  options : List DownlinkOption
  deriving DecidableEq, Repr

structure RoutedUplink where
  payload : Payload
  protocol : ProtocolMetadata
  gateway : GatewayMetadata
  options : List DownlinkOption
  deriving DecidableEq, Repr

structure HandlerUplink where
  app : AppEui
  dev : DevEui
  payload : Payload
  protocol : ProtocolMetadata
  gateways : List GatewayMetadata
  deriving DecidableEq, Repr

structure GatewayStatus where
  region : String
  description : String
  platform : String
  time : Int
  rxIn : UInt32
  rxOk : UInt32
  txIn : UInt32
  txOk : UInt32
  deriving DecidableEq, Repr

end LorawanRouting
