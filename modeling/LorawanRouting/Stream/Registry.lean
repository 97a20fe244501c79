import LorawanRouting.Reply
import Std.Data.ExtTreeMap

/-!
Outbound streams, at most one live stream for each identity. The registry keeps the sending ends;
a receiving end is handed out on activation and is known by the number of its channel. Deactivation
ends a stream for its consumer once what was queued is drained, and a later activation of the same
identity opens a channel of its own.
-/

namespace LorawanRouting

inductive RegistryError
  | alreadyActive (id : String)
  | notActive (id : String)
  | full (id : String)
  /-- The consumer gave up its receiving end without deactivation. -/
  | closed (id : String)
  deriving DecidableEq, Repr

def RegistryError.message : RegistryError → String
  | alreadyActive id => s!"stream {id} already active"
  | notActive id => s!"stream {id} not active"
  | full id => s!"stream {id} is full"
  | closed id => s!"stream {id} closed by consumer"

structure Channel (α : Type) where
  queue : List α
  hasSender : Bool
  hasReceiver : Bool

structure Receiver where
  channel : Nat
  deriving DecidableEq, Repr

inductive Received (α : Type)
  | message (m : α)
  | empty
  | closed
  deriving DecidableEq, Repr

structure Registry (α : Type) where
  /-- Below 2 ^ 61, from where on no queue can be made; that a stream then fails to open is left out. -/
  capacity : Nat
  capacity_pos : 0 < capacity
  live : Std.ExtTreeMap String Nat
  /-- Every channel ever opened, in the order of opening. -/
  channels : List (Channel α)

namespace Registry

variable {α : Type}

def new (capacity : Nat) : Registry α := ⟨max 1 capacity, by omega, ∅, []⟩

def isActive (r : Registry α) (id : String) : Bool := r.live.contains id

def active (r : Registry α) : List String := r.live.keys

def activate (r : Registry α) (id : String) : Reply (Registry α) RegistryError Receiver :=
  if r.live.contains id then ⟨.error (.alreadyActive id), r⟩
  else
    let number := r.channels.length
    ⟨.ok ⟨number⟩, { r with
      live := r.live.insert id number
      channels := r.channels ++ [⟨[], true, true⟩] }⟩

def deactivate (r : Registry α) (id : String) : Reply (Registry α) RegistryError Unit :=
  match r.live[id]? with
  | none => ⟨.error (.notActive id), r⟩
  | some number =>
    ⟨.ok (), { r with
      live := r.live.erase id
      channels := r.channels.modify number fun c => { c with hasSender := false } }⟩

/-- Queues a message without waiting. That nobody receives is told before that the queue is full. -/
def send (r : Registry α) (id : String) (m : α) : Reply (Registry α) RegistryError Unit :=
  match r.live[id]? with
  | none => ⟨.error (.notActive id), r⟩
  | some number =>
    match r.channels[number]? with
    | none => ⟨.error (.notActive id), r⟩
    | some c =>
      if !c.hasReceiver then ⟨.error (.closed id), r⟩
      else if r.capacity ≤ c.queue.length then ⟨.error (.full id), r⟩
      else ⟨.ok (), { r with channels := r.channels.set number { c with queue := c.queue ++ [m] } }⟩

def receive (r : Registry α) (receiver : Receiver) : Received α × Registry α :=
  match r.channels[receiver.channel]? with
  | none => (.closed, r)
  | some c =>
    match c.queue with
    | m :: rest =>
      (.message m, { r with channels := r.channels.set receiver.channel { c with queue := rest } })
    | [] => (if c.hasSender then .empty else .closed, r)

def drop (r : Registry α) (receiver : Receiver) : Registry α :=
  { r with
    channels := r.channels.modify receiver.channel fun c =>
      { c with queue := [], hasReceiver := false } }

end Registry

end LorawanRouting
