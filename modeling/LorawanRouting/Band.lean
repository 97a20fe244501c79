import LorawanRouting.Text.Quoted

/-!
Regional radio plans. A gateway names its region, and the plan gives what the router needs to offer
downlinks there: the second receive window, the delays of both windows, the power, and how the
first window follows from the uplink.
-/

namespace LorawanRouting

inductive FirstWindow
  | sameAsUplink
  /-- Eight wide downlink channels, taken in turn by the narrow uplink channels from `base` on. -/
  | wideChannels (base : UInt64)
  deriving DecidableEq, Repr

structure WindowDelays where
  first : Nat
  second : Nat
  deriving DecidableEq, Repr

structure Band where
  region : String
  secondFrequency : UInt64
  secondDataRate : Nat
  secondDataRateName : String
  power : Int
  firstWindow : FirstWindow
  extraChannels : Option (List UInt64)
  deriving DecidableEq, Repr

inductive BandError
  | unknownRegion (region : String)
  deriving DecidableEq, Repr

def BandError.message : BandError → String
  | .unknownRegion region => s!"unknown region {Quoted.text region}"

/-- Every mention of the narrow bandwidth, found from the left, gives way to the wide one. -/
def widen : List Char → List Char
  | 'B' :: 'W' :: '1' :: '2' :: '5' :: rest => 'B' :: 'W' :: '5' :: '0' :: '0' :: widen rest
  | c :: rest => c :: widen rest
  | [] => []

namespace Band

def table : List Band := [
  ⟨"EU_863_870", 869525000, 0, "SF12BW125", 14, .sameAsUplink,
    some [867100000, 867300000, 867500000, 867700000, 867900000]⟩,
  ⟨"US_902_928", 923300000, 8, "SF12BW500", 20, .wideChannels 902300000, none⟩,
  ⟨"CN_779_787", 786000000, 0, "SF12BW125", 10, .sameAsUplink, none⟩,
  ⟨"EU_433", 434665000, 0, "SF12BW125", 10, .sameAsUplink, none⟩,
  ⟨"AU_915_928", 923300000, 8, "SF12BW500", 20, .wideChannels 915200000, none⟩,
  ⟨"CN_470_510", 505300000, 0, "SF12BW125", 17, .sameAsUplink, none⟩,
  ⟨"AS_923", 923200000, 2, "SF10BW125", 14, .sameAsUplink, none⟩,
  ⟨"KR_920_923", 921900000, 0, "SF12BW125", 14, .sameAsUplink, none⟩]

def ofRegion (region : String) : Except BandError Band :=
  match table.find? (·.region = region) with
  | some band => .ok band
  | none => .error (.unknownRegion region)

def receiveDelays (_ : Band) : WindowDelays := ⟨1000, 2000⟩

def joinAcceptDelays (_ : Band) : WindowDelays := ⟨5000, 6000⟩

/-- The narrow channel of an uplink; frequencies below the first channel count as the first. -/
def uplinkChannel (base frequency : UInt64) : UInt64 :=
  (if frequency < base then 0 else frequency - base) / 200000

def firstFrequency (b : Band) (uplink : UInt64) : UInt64 :=
  match b.firstWindow with
  | .sameAsUplink => uplink
  | .wideChannels base => 923300000 + uplinkChannel base uplink % 8 * 600000

def firstDataRate (b : Band) (uplink : String) : String :=
  match b.firstWindow with
  | .sameAsUplink => uplink
  | .wideChannels _ => String.ofList (widen uplink.toList)

end Band

end LorawanRouting
