import LorawanRouting.Router.Basic

/-!
Connections to brokers. A connection is used as long as the broker is announced at the address it
was made to; a broker that moved is connected anew, and one that cannot be reached is left without
a connection.
-/

namespace LorawanRouting

structure Connected (κ : Type) where
  attempts : List Announcement
  clients : List (String × κ)
  router : Router κ

namespace Router

variable {κ : Type}

def cached? (r : Router κ) (a : Announcement) : Option κ :=
  match r.connections[a.id]? with
  | some c => if c.address = a.netAddress then some c.client else none
  | none => none

def connectOne (connect : Announcement → Option κ) (r : Router κ) (a : Announcement) :
    Connected κ :=
  match r.cached? a with
  | some client => ⟨[], [(a.id, client)], r⟩
  | none =>
    match connect a with
    | some client =>
      ⟨[a], [(a.id, client)],
        { r with connections := r.connections.insert a.id ⟨a.netAddress, client⟩ }⟩
    | none => ⟨[a], [], { r with connections := r.connections.erase a.id }⟩

/-- What comes of the next attempt, by how often the same was tried before. -/
def nextAttempt (connect : Announcement → Nat → Option κ) (tried : List Announcement)
    (a : Announcement) : Option κ :=
  connect a (tried.count a)

def connectAll (connect : Announcement → Nat → Option κ) (r : Router κ) (as : List Announcement) :
    Connected κ :=
  as.foldl (fun c a =>
    let one := connectOne (nextAttempt connect c.attempts) c.router a
    ⟨c.attempts ++ one.attempts, c.clients ++ one.clients, one.router⟩) ⟨[], [], r⟩

/-- Drops the connections to brokers that are missing from a complete view of the directory. -/
def forgetDeparted (r : Router κ) (as : List Announcement) : Router κ :=
  { r with connections := r.connections.filter fun id _ => as.any (·.id = id) }

end Router

end LorawanRouting
