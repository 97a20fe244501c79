import LorawanRouting.Message.Basic

/-!
What a router knows of a gateway: the status it last reported and its traffic. Frames are counted
in the current window; a tick closes the window, and the totals of the last closed window show.
-/

namespace LorawanRouting

inductive GatewayError
  | statusUnavailable (eui : GatewayEui)
  deriving DecidableEq, Repr

def GatewayError.message : GatewayError → String
  | .statusUnavailable eui => s!"gateway {eui.text} has not reported a status"

structure Utilization where
  rxCurrent : UInt64
  txCurrent : UInt64
  rxLast : UInt64
  txLast : UInt64
  deriving DecidableEq, Repr

namespace Utilization

def none : Utilization := ⟨0, 0, 0, 0⟩

def addRx (u : Utilization) : Utilization := { u with rxCurrent := u.rxCurrent + 1 }

def addTx (u : Utilization) : Utilization := { u with txCurrent := u.txCurrent + 1 }

def tick (u : Utilization) : Utilization := ⟨0, 0, u.rxCurrent, u.txCurrent⟩

def last (u : Utilization) : UInt64 × UInt64 := (u.rxLast, u.txLast)

end Utilization

structure Gateway where
  eui : GatewayEui
  status : Option GatewayStatus
  utilization : Utilization
  deriving DecidableEq, Repr

namespace Gateway

def new (eui : GatewayEui) : Gateway := ⟨eui, none, .none⟩

def report (g : Gateway) (status : GatewayStatus) : Gateway := { g with status := some status }

def lastStatus (g : Gateway) : Except GatewayError GatewayStatus :=
  match g.status with
  | some s => .ok s
  | none => .error (.statusUnavailable g.eui)

def count (g : Gateway) (f : Utilization → Utilization) : Gateway :=
  { g with utilization := f g.utilization }

end Gateway

end LorawanRouting
