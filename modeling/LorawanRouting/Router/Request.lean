import LorawanRouting.Message.Offer
import LorawanRouting.Router.Connect

/-!
Requests from gateways. A join request goes to every broker, an uplink to the brokers responsible
for its address. Before anyone is asked, the gateway must have reported a region that is known,
an uplink must be long enough to hold an address, and the directory must answer.
-/

namespace LorawanRouting

/--
What a router reaches behind it: the directory, the making of connections, and the brokers, whose
common state `ω` may change when they are asked.
-/
structure Backhaul (κ ω : Type) where
  all : Except DirectoryError (List Announcement)
  discover : DevAddr → Except DirectoryError (List Announcement)
  /-- What comes of an attempt to connect, by the number of like attempts before it. -/
  connect : Announcement → Nat → Option κ
  activate : κ → Activation → ω → Race.Conduct Downlink × ω
  uplink : κ → RoutedUplink → ω → Race.Conduct (Option Downlink) × ω

structure Report (κ ω μ : Type) where
  result : Except RouterError Unit
  router : Router κ
  world : ω
  attempts : List Announcement
  asked : List String
  request : Option μ
  elapsed : Nat

def Report.failed {κ ω μ : Type} (e : RouterError) (r : Router κ) (w : ω) : Report κ ω μ :=
  ⟨.error e, r, w, [], [], none, 0⟩

namespace Router

variable {κ ω μ ρ : Type}

def askAll (ask : κ → ω → Race.Conduct ρ × ω) : List (String × κ) → ω → List (Race.Peer ρ) × ω
  | [], w => ([], w)
  | (id, client) :: rest, w =>
    let (conduct, w) := ask client w
    let (peers, w) := askAll ask rest w
    (⟨id, conduct⟩ :: peers, w)

def raceFor (kind : RequestKind) (connect : Announcement → Nat → Option κ)
    (ask : κ → ω → Race.Conduct ρ × ω) (downlinkOf : ρ → Option Downlink) (request : μ)
    (r : Router κ) (w : ω) (announced : List Announcement) : Report κ ω μ :=
  let c := connectAll connect r announced
  let (peers, w) := askAll ask c.clients w
  let (r, tally) :=
    Race.collect deliver downlinkOf c.router (Race.arrivals r.requestTimeout peers)
  { result := (tally.result kind).map fun _ => ()
    router := r
    world := w
    attempts := c.attempts
    asked := c.clients.map (·.1)
    request := some request
    elapsed := Race.elapsed r.requestTimeout 0 downlinkOf peers tally }

def activate (b : Backhaul κ ω) (r : Router κ) (w : ω) (eui : GatewayEui) (request : JoinRequest) :
    Report κ ω Activation :=
  let r := r.countRx eui
  let request := { request with gateway := { request.gateway with gateway := eui } }
  match r.bandOf eui with
  | .error e => Report.failed e r w
  | .ok band =>
    let activation := request.toActivation band
    match b.all with
    | .error e => Report.failed (.discovery e) r w
    | .ok announced =>
      raceFor .activation b.connect (fun client => b.activate client activation) some activation
        (r.forgetDeparted announced) w announced

def uplink (b : Backhaul κ ω) (r : Router κ) (w : ω) (eui : GatewayEui) (frame : Uplink) :
    Report κ ω RoutedUplink :=
  let r := r.countRx eui
  let frame := { frame with gateway := { frame.gateway with gateway := eui } }
  match r.bandOf eui with
  | .error e => Report.failed e r w
  | .ok band =>
    match frameAddress? frame.payload with
    | none => Report.failed .shortFrame r w
    | some address =>
      let routed := frame.toRouted band
      match b.discover address with
      | .error e => Report.failed (.discovery e) r w
      | .ok announced =>
        raceFor .uplink b.connect (fun client => b.uplink client routed) id routed r w announced

end Router

end LorawanRouting
