import LorawanRouting.Network.Server
import LorawanRouting.Router.Request

/-!
A whole network in one process: a router, a directory and servers. Servers are known by number, so
that a connection stays with the server it was made to when another takes over its identity. The delay
of each server is given anew for each request, so its answers may arrive in any order, or too late.
-/

namespace LorawanRouting

structure Network (δ : Type) where
  router : Router Nat
  directory : Directory
  servers : List (Server δ)
  /-- The number of the server that can be reached under an identity. -/
  reachable : Std.ExtTreeMap String Nat

namespace Network

variable {δ : Type}

def new (requestTimeout downlinkBuffer : Nat) : Network δ :=
  ⟨.new requestTimeout downlinkBuffer, .empty, [], ∅⟩

def addServer (n : Network δ) (s : Server δ) : Network δ :=
  { n with
    directory := n.directory.announce s.announcement
    servers := n.servers ++ [s]
    reachable := n.reachable.insert s.id n.servers.length }

def addUnreachable (n : Network δ) (id : String) (firstByte : UInt8) : Network δ :=
  { n with directory := n.directory.announce (Server.announcementOf id firstByte) }

def withdraw (n : Network δ) (id : String) : Bool × Network δ :=
  let (removed, directory) := n.directory.remove id
  (removed.isSome, { n with directory })

def server? (n : Network δ) (id : String) : Option (Server δ) := do
  n.servers[← n.reachable[id]?]?

def changeServer (n : Network δ) (id : String) (f : Server δ → Server δ) : Network δ :=
  match n.reachable[id]? with
  | some number => { n with servers := n.servers.modify number f }
  | none => n

def askServer {ρ : Type} (f : Server δ → Race.Conduct ρ × Server δ) (delays : Nat → Nat)
    (number : Nat) (servers : List (Server δ)) : Race.Conduct ρ × List (Server δ) :=
  match servers[number]? with
  | some s =>
    let (conduct, s) := f s
    (conduct.later (delays number), servers.set number s)
  | none => (.silent, servers)

/-- An attempt to connect works out as often as it is made. -/
def connect (n : Network δ) (a : Announcement) (_ : Nat) : Option Nat := n.reachable[a.id]?

def backhaul [DeviceStore δ] (n : Network δ) (delays : Nat → Nat) :
    Backhaul Nat (List (Server δ)) where
  all := .ok n.directory.all
  discover address := .ok (n.directory.discover address)
  connect := n.connect
  activate number request := askServer (·.activate request) delays number
  uplink number m := askServer (·.uplink m) delays number

def activate [DeviceStore δ] (n : Network δ) (delays : Nat → Nat) (eui : GatewayEui)
    (request : JoinRequest) : Except RouterError Unit × Network δ :=
  let report := n.router.activate (n.backhaul delays) n.servers eui request
  (report.result, { n with router := report.router, servers := report.world })

def uplink [DeviceStore δ] (n : Network δ) (delays : Nat → Nat) (eui : GatewayEui)
    (frame : Uplink) : Except RouterError Unit × Network δ :=
  let report := n.router.uplink (n.backhaul delays) n.servers eui frame
  (report.result, { n with router := report.router, servers := report.world })

end Network

end LorawanRouting
