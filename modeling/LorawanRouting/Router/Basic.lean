import LorawanRouting.Band
import LorawanRouting.Directory
import LorawanRouting.Gateway
import LorawanRouting.Race
import LorawanRouting.Stream.Registry

/-!
The router: its gateways, its connections to brokers, and the streams on which downlinks go back to
gateways. Gateways come into being when they are first heard of. A connection belongs to the
address it was made to, and every gateway has a stream of its own under its identifier.
-/

namespace LorawanRouting

inductive RouterError
  | gatewayStatus (cause : GatewayError)
  | band (cause : BandError)
  | discovery (cause : DirectoryError)
  | shortFrame
  /-- No broker accepted, or no accepted answer could be delivered. -/
  | notAccepted (kind : RequestKind)
  | missingOption
  | downlink (cause : RegistryError)
  deriving DecidableEq, Repr

namespace RouterError

def message : RouterError → String
  | gatewayStatus cause => cause.message
  | band cause => cause.message
  | discovery cause => s!"peer discovery failed: {cause.message}"
  | shortFrame => "invalid payload: frame too short for a DevAddr"
  | notAccepted kind => s!"{kind.name} not accepted at this gateway"
  | missingOption => "downlink carries no downlink option"
  | downlink cause => s!"downlink delivery failed: {cause.message}"

def isNotAccepted : RouterError → Bool
  | notAccepted _ => true
  | _ => false

end RouterError

def Race.Tally.result (kind : RequestKind) (t : Race.Tally) : Except RouterError Race.Outcome :=
  match t.accepted with
  | some id => .ok ⟨id, t.responses, t.deliveries⟩
  | none => .error (.notAccepted kind)

structure Connection (κ : Type) where
  address : String
  client : κ

structure Router (κ : Type) where
  /-- Milliseconds that the brokers have for one request. -/
  requestTimeout : Nat
  gateways : Std.ExtTreeMap GatewayEui Gateway
  connections : Std.ExtTreeMap String (Connection κ)
  downlinks : Registry Downlink

namespace Router

variable {κ : Type}

def new (requestTimeout downlinkBuffer : Nat) : Router κ :=
  ⟨requestTimeout, ∅, ∅, .new downlinkBuffer⟩

def gateway (r : Router κ) (eui : GatewayEui) : Gateway := r.gateways[eui]?.getD (.new eui)

def changeGateway (r : Router κ) (eui : GatewayEui) (f : Gateway → Gateway) : Router κ :=
  { r with gateways := r.gateways.insert eui (f (r.gateway eui)) }

def report (r : Router κ) (eui : GatewayEui) (status : GatewayStatus) : Router κ :=
  r.changeGateway eui (·.report status)

def countRx (r : Router κ) (eui : GatewayEui) : Router κ :=
  r.changeGateway eui (·.count Utilization.addRx)

def countTx (r : Router κ) (eui : GatewayEui) : Router κ :=
  r.changeGateway eui (·.count Utilization.addTx)

def tick (r : Router κ) (eui : GatewayEui) : Router κ :=
  r.changeGateway eui (·.count Utilization.tick)

def bandOf (r : Router κ) (eui : GatewayEui) : Except RouterError Band :=
  match (r.gateway eui).lastStatus with
  | .error e => .error (.gatewayStatus e)
  | .ok status => (Band.ofRegion status.region).mapError .band

def withDownlinks (r : Router κ) (downlinks : Registry Downlink) : Router κ :=
  { r with downlinks }

def subscribe (r : Router κ) (eui : GatewayEui) : Reply (Router κ) RouterError Receiver :=
  ((r.downlinks.activate eui.text).mapState r.withDownlinks).mapError .downlink

def unsubscribe (r : Router κ) (eui : GatewayEui) : Reply (Router κ) RouterError Unit :=
  ((r.downlinks.deactivate eui.text).mapState r.withDownlinks).mapError .downlink

def sendDownlink (r : Router κ) (m : Downlink) : Reply (Router κ) RouterError Unit :=
  match m.option with
  | none => ⟨.error .missingOption, r⟩
  | some option =>
    let sent := r.downlinks.send option.gateway.text m
    match sent.answer with
    | .error e => ⟨.error (.downlink e), r.withDownlinks sent.state⟩
    | .ok () => ⟨.ok (), (r.withDownlinks sent.state).countTx option.gateway⟩

def deliver (r : Router κ) (m : Downlink) : Bool × Router κ :=
  let sent := r.sendDownlink m
  (sent.answer.toBool, sent.state)

end Router

end LorawanRouting
