import LorawanRouting.Band
import LorawanRouting.Message.Basic

/-!
What a router adds to a frame before brokers see it: the two receive windows in which the sender
listens, as downlink options of the gateway that heard it, and for a join request the parameters
of the region.
-/

namespace LorawanRouting

inductive Window
  | first
  | second
  deriving DecidableEq, Repr

namespace Window

def label : Window → String
  | first => "rx1"
  | second => "rx2"

def score : Window → UInt32
  | first => 10
  | second => 20

def delay (ds : WindowDelays) : Window → Nat
  | first => ds.first
  | second => ds.second

end Window

/-- Milliseconds in microseconds; a time that a gateway clock cannot hold counts as its longest. -/
def delayMicros (delay : Nat) : UInt32 := UInt32.ofNat (min (1000 * delay) 4294967295)

/-- The gateway clock at a number of milliseconds after an uplink; it wraps around. -/
def clockAfter (timestamp : UInt32) (delay : Nat) : UInt32 := timestamp + delayMicros delay

namespace DownlinkOption

def name (gateway : GatewayEui) (timestamp : UInt32) (w : Window) : String :=
  s!"{gateway.text}:{timestamp.toNat}:{w.label}"

def ofWindow (uplink : Uplink) (band : Band) (gateway : GatewayEui) (delays : WindowDelays)
    (w : Window) : DownlinkOption :=
  let timestamp := clockAfter uplink.gateway.timestamp (w.delay delays)
  { identifier := name gateway timestamp w
    gateway := gateway
    timestamp := timestamp
    frequency := match w with
      | .first => band.firstFrequency uplink.gateway.frequency
      | .second => band.secondFrequency
    dataRate := match w with
      | .first => band.firstDataRate uplink.protocol.dataRate
      | .second => band.secondDataRateName
    codingRate := uplink.protocol.codingRate
    power := band.power
    score := w.score }

def offers (uplink : Uplink) (band : Band) (gateway : GatewayEui) (join : Bool) :
    List DownlinkOption :=
  let delays := if join then band.joinAcceptDelays else band.receiveDelays
  [ofWindow uplink band gateway delays .first, ofWindow uplink band gateway delays .second]

end DownlinkOption

/-- The join parameters of a region; the delay is that of the first data window in seconds. -/
def JoinRequest.parameters (r : JoinRequest) (band : Band) : JoinParameters where
  app := r.app
  dev := r.dev
  firstWindowOffset := 0
  secondDataRate := band.secondDataRate
  receiveDelay := band.receiveDelays.first / 1000
  extraChannels := band.extraChannels

def JoinRequest.toActivation (r : JoinRequest) (band : Band) : Activation where
  payload := r.payload
  app := r.app
  dev := r.dev
  protocol := r.protocol
  gateway := r.gateway
  parameters := r.parameters band
  options := DownlinkOption.offers r.toUplink band r.gateway.gateway true

def Uplink.toRouted (u : Uplink) (band : Band) : RoutedUplink where
  payload := u.payload
  protocol := u.protocol
  gateway := u.gateway
  options := DownlinkOption.offers u band u.gateway.gateway false

end LorawanRouting
