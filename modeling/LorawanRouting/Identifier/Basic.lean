import LorawanRouting.Text.Hex
import LorawanRouting.Text.Quoted

/-!
Identifiers: fixed numbers of bytes, shown as upper-case hexadecimal text and read from such text
of either case. Applications, devices and gateways have global identifiers of eight bytes; a
device address is short and changes with every activation.
-/

namespace LorawanRouting

inductive IdKind
  | appEui
  | devEui
  | gatewayEui
  | devAddr
  | nwkSKey
  deriving DecidableEq, Repr

namespace IdKind

def name : IdKind → String
  | appEui => "AppEui"
  | devEui => "DevEui"
  | gatewayEui => "GatewayEui"
  | devAddr => "DevAddr"
  | nwkSKey => "NwkSKey"

def size : IdKind → Nat
  | appEui | devEui | gatewayEui => 8
  | devAddr => 4
  | nwkSKey => 16

end IdKind

structure Identifier (kind : IdKind) where
  bytes : List UInt8
  length_bytes : bytes.length = kind.size
  deriving DecidableEq, Repr

abbrev AppEui := Identifier .appEui
abbrev DevEui := Identifier .devEui
abbrev GatewayEui := Identifier .gatewayEui
abbrev DevAddr := Identifier .devAddr
abbrev NwkSKey := Identifier .nwkSKey

inductive IdError
  | badHex (kind : IdKind) (fault : Hex.Fault)
  | badLength (kind : IdKind) (actual : Nat)
  deriving DecidableEq, Repr

/-- A byte is shown as the character of its number. -/
def Hex.Fault.message : Hex.Fault → String
  | .oddLength => "Odd number of digits"
  | .badByte byte position =>
    s!"Invalid character {Quoted.char (Char.ofNat byte.toNat)} at position {position}"

def IdError.message : IdError → String
  | .badHex kind fault => s!"invalid hex in {kind.name}: {fault.message}"
  | .badLength kind actual => s!"{kind.name} must be {kind.size} bytes, got {actual}"

namespace Identifier

variable {kind : IdKind}

def zero (kind : IdKind) : Identifier kind := ⟨List.replicate kind.size 0, List.length_replicate⟩

instance : Inhabited (Identifier kind) := ⟨zero kind⟩

/-- For an address: not assigned. -/
def isZero (x : Identifier kind) : Bool := x.bytes.all (· = 0)

def ofBytes? (kind : IdKind) (bytes : List UInt8) : Option (Identifier kind) :=
  if h : bytes.length = kind.size then some ⟨bytes, h⟩ else none

def text (x : Identifier kind) : String := Hex.upper x.bytes

def ofText (kind : IdKind) (s : String) : Except IdError (Identifier kind) :=
  match Hex.read s with
  | .error fault => .error (.badHex kind fault)
  | .ok bytes =>
    if h : bytes.length = kind.size then .ok ⟨bytes, h⟩
    else .error (.badLength kind bytes.length)

def ofText? (kind : IdKind) (s : String) : Option (Identifier kind) := (ofText kind s).toOption

instance : Ord (Identifier kind) := ⟨fun x y => compare x.bytes y.bytes⟩

@[ext] theorem ext {x y : Identifier kind} (h : x.bytes = y.bytes) : x = y := by
  cases x; cases y; simp_all

instance : Std.TransOrd (Identifier kind) where
  eq_swap := Std.OrientedCmp.eq_swap (α := List UInt8)
  isLE_trans := Std.TransCmp.isLE_trans (α := List UInt8)

instance : Std.LawfulEqOrd (Identifier kind) where
  compare_self := Std.ReflCmp.compare_self (α := List UInt8)
  eq_of_compare h := ext (Std.LawfulEqCmp.eq_of_compare h)

def sort (xs : List (Identifier kind)) : List (Identifier kind) :=
  xs.mergeSort fun x y => (compare x y).isLE

end Identifier

/-- The address in a data frame: the four bytes after the first, the lowest first. -/
def frameAddress? : List UInt8 → Option DevAddr
  | _ :: a :: b :: c :: d :: _ => some ⟨[d, c, b, a], rfl⟩
  | _ => none

end LorawanRouting
