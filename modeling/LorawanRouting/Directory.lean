import LorawanRouting.Identifier.AddressRange
import Std.Data.ExtTreeMap

/-!
The directory of brokers. Each broker announces itself under an identity of its own with the
address ranges it is responsible for; lists are in ascending order of the identities.
-/

namespace LorawanRouting

structure Announcement where
  id : String
  service : String
  netAddress : String
  ranges : List AddressRange
  deriving DecidableEq

def Announcement.handles (a : Announcement) (address : DevAddr) : Bool :=
  a.ranges.any fun r => r.contains address

inductive DirectoryError
  | unavailable
  deriving DecidableEq, Repr

def DirectoryError.message : DirectoryError → String
  | .unavailable => "directory unavailable"

structure Directory where
  entries : Std.ExtTreeMap String Announcement

namespace Directory

def empty : Directory := ⟨∅⟩

def announce (d : Directory) (a : Announcement) : Directory := ⟨d.entries.insert a.id a⟩

def remove (d : Directory) (id : String) : Option Announcement × Directory :=
  (d.entries[id]?, ⟨d.entries.erase id⟩)

def all (d : Directory) : List Announcement := d.entries.values

def discover (d : Directory) (address : DevAddr) : List Announcement :=
  d.all.filter fun a => a.handles address

end Directory

end LorawanRouting
