import LorawanRouting.Identifier.Basic

/-!
Ranges of device addresses: all addresses that agree with a given one in the first so many bits.
-/

namespace LorawanRouting

structure AddressRange where
  address : DevAddr
  length : Nat
  length_le : length ≤ 32
  deriving DecidableEq

namespace AddressRange

/-- The range of the first `length` bits, or of all bits if there are fewer. -/
def of (address : DevAddr) (length : Nat) : AddressRange :=
  ⟨address, min length 32, Nat.min_le_right ..⟩

def number (a : DevAddr) : Nat := a.bytes.foldl (fun n b => 256 * n + b.toNat) 0

def contains (r : AddressRange) (a : DevAddr) : Bool :=
  number r.address >>> (32 - r.length) = number a >>> (32 - r.length)

def text (r : AddressRange) : String := s!"{r.address.text}/{r.length}"

end AddressRange

end LorawanRouting
