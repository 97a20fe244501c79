import LorawanRouting.Application.MemoryStore
import LorawanRouting.Broker
import LorawanRouting.Device.Store
import LorawanRouting.Directory
import LorawanRouting.Race

/-!
A broker with network server state of its own. It accepts join requests for the applications it
knows, gives out addresses inside its range, and passes uplinks of its devices to the handler of
their application, counting them before it tries. It takes no time of its own over a request; when its
answer arrives is up to the network.
-/

namespace LorawanRouting

structure Server (δ : Type) where
  id : String
  firstByte : UInt8
  broker : Broker ApplicationTable
  devices : δ
  /-- The last byte of the next address; it wraps around. -/
  nextByte : UInt8

namespace Server

variable {δ : Type}

def new (id : String) (firstByte : UInt8) (devices : δ) (streamBuffer : Nat) : Server δ :=
  ⟨id, firstByte, .new streamBuffer .empty, devices, 1⟩

def addressOf (s : Server δ) (last : UInt8) : DevAddr := ⟨[s.firstByte, 0, 0, last], rfl⟩

def announcementOf (id : String) (firstByte : UInt8) : Announcement where
  id := id
  service := "broker"
  netAddress := id ++ ":1902"
  ranges := [.of ⟨[firstByte, 0, 0, 0], rfl⟩ 8]

def announcement (s : Server δ) : Announcement := announcementOf s.id s.firstByte

def sessionKey : NwkSKey := ⟨List.replicate 16 0x2b, rfl⟩

def register (s : Server δ) (app : AppEui) (handler : String) : Server δ :=
  let stored := ApplicationStore.set s.broker.applications ⟨app, handler, handler ++ ":1904"⟩
  { s with broker := { s.broker with applications := stored.state } }

def bestOption : List DownlinkOption → Option DownlinkOption
  | [] => none
  | o :: os =>
    match bestOption os with
    | some best => some (if best.score < o.score then best else o)
    | none => some o

/-- Grants an address. The address is used up even if the store then fails. -/
def activate [DeviceStore δ] (s : Server δ) (request : Activation) :
    Race.Conduct Downlink × Server δ :=
  match ApplicationStore.get s.broker.applications request.app with
  | .error _ => (.refuses 0, s)
  | .ok _ =>
    let address := s.addressOf s.nextByte
    let stored := DeviceStore.activate s.devices ⟨request.app, request.dev⟩ address sessionKey
    let s := { s with nextByte := s.nextByte + 1, devices := stored.state }
    match stored.answer, bestOption request.options with
    | .ok _, some option => (.answers 0 ⟨address.bytes, some option⟩, s)
    | _, _ => (.refuses 0, s)

/-- Both counters of received frames can take one more. -/
def HasRoom (d : Device) : Prop :=
  d.counterUp.toNat + 1 < UInt32.size ∧ d.totals.received.toNat + 1 < UInt64.size

instance (d : Device) : Decidable (HasRoom d) := inferInstanceAs (Decidable (_ ∧ _))

def countFrame (d : Device) : Device :=
  { d with
    counterUp := d.counterUp + 1
    totals := { d.totals with received := d.totals.received + 1 } }

/-- Passes an uplink on for the first holder of its address. A counter that overflows is a crash before
anything is stored. -/
def uplink [DeviceStore δ] (s : Server δ) (m : RoutedUplink) :
    Race.Conduct (Option Downlink) × Server δ :=
  match frameAddress? m.payload with
  | none => (.refuses 0, s)
  | some address =>
    match DeviceStore.byAddress s.devices address with
    | .error _ | .ok [] => (.refuses 0, s)
    | .ok (holder :: _) =>
      if HasRoom holder then
        let device := countFrame holder
        let stored := DeviceStore.set s.devices device [.counterUp, .totals]
        let s := { s with devices := stored.state }
        match stored.answer with
        | .error _ => (.refuses 0, s)
        | .ok _ =>
          let sent := s.broker.sendUplink
            ⟨device.app, device.dev, m.payload, m.protocol, [m.gateway]⟩
          let s := { s with broker := sent.state }
          match sent.answer with
          | .error _ => (.refuses 0, s)
          | .ok _ => (.answers 0 none, s)
      else (.crashes 0, s)

end Server

end LorawanRouting
