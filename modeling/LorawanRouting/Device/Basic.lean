import LorawanRouting.Identifier.Basic
import LorawanRouting.Time.Timestamp

/-!
Devices as the network server knows them. A device is identified by its application and its own
identifier; its address is zero until it is activated. The nine fields of a device can be named,
copied and stored one by one.
-/

namespace LorawanRouting

structure DeviceKey where
  app : AppEui
  dev : DevEui
  deriving DecidableEq, Repr

namespace DeviceKey

instance : Ord DeviceKey := ⟨compareLex (compareOn DeviceKey.app) (compareOn DeviceKey.dev)⟩

instance : Std.TransOrd DeviceKey :=
  inferInstanceAs (Std.TransCmp (compareLex (compareOn DeviceKey.app) (compareOn DeviceKey.dev)))

instance : Std.LawfulEqOrd DeviceKey where
  eq_of_compare {x y} h := by
    have h : (compare x.app y.app).then (compare x.dev y.dev) = .eq := h
    rw [Ordering.then_eq_eq] at h
    simp only [Std.LawfulEqCmp.compare_eq_iff_eq] at h
    cases x; cases y; simp_all

end DeviceKey

structure DeviceOptions where
  /-- Frames are taken without a look at their counter, which is insecure. -/
  skipsCounterCheck : Bool
  usesLongCounters : Bool
  deriving DecidableEq, Repr

structure FrameTotals where
  received : UInt64
  sent : UInt64
  deriving DecidableEq, Repr

structure Device where
  dev : DevEui
  app : AppEui
  address : DevAddr
  sessionKey : NwkSKey
  counterUp : UInt32
  counterDown : UInt32
  lastSeen : Option Timestamp
  options : DeviceOptions
  totals : FrameTotals
  deriving DecidableEq, Repr

inductive DeviceField
  | dev
  | app
  | address
  | sessionKey
  | counterUp
  | counterDown
  | lastSeen
  | options
  | totals
  deriving DecidableEq, Repr

namespace DeviceField

def all : List DeviceField :=
  [dev, app, address, sessionKey, counterUp, counterDown, lastSeen, options, totals]

/-- The fields an activation writes; what a device has seen and done outlives it. -/
def activation : List DeviceField := [dev, app, address, sessionKey, counterUp, counterDown]

def name : DeviceField → String
  | dev => "dev_eui"
  | app => "app_eui"
  | address => "dev_addr"
  | sessionKey => "nwk_s_key"
  | counterUp => "f_cnt_up"
  | counterDown => "f_cnt_down"
  | lastSeen => "last_seen"
  | options => "options"
  | totals => "utilization"

def ofName? (s : String) : Option DeviceField := all.find? (·.name = s)

/-- The given fields, or all of them if none is given. -/
def orAll (fields : List DeviceField) : List DeviceField := if fields = [] then all else fields

end DeviceField

namespace Device

def new (key : DeviceKey) : Device where
  dev := key.dev
  app := key.app
  address := .zero _
  sessionKey := .zero _
  counterUp := 0
  counterDown := 0
  lastSeen := none
  options := ⟨false, false⟩
  totals := ⟨0, 0⟩

def blank : Device := new ⟨.zero _, .zero _⟩

def key (d : Device) : DeviceKey := ⟨d.app, d.dev⟩

def activated (key : DeviceKey) (address : DevAddr) (sessionKey : NwkSKey) : Device :=
  { new key with address, sessionKey }

def copyField (d source : Device) : DeviceField → Device
  | .dev => { d with dev := source.dev }
  | .app => { d with app := source.app }
  | .address => { d with address := source.address }
  | .sessionKey => { d with sessionKey := source.sessionKey }
  | .counterUp => { d with counterUp := source.counterUp }
  | .counterDown => { d with counterDown := source.counterDown }
  | .lastSeen => { d with lastSeen := source.lastSeen }
  | .options => { d with options := source.options }
  | .totals => { d with totals := source.totals }

def copyFields (d source : Device) (fields : List DeviceField) : Device :=
  fields.foldl (fun d f => d.copyField source f) d

end Device

end LorawanRouting
