import LorawanRouting.Stream.Registry

/-!
Receiving ends that consumers keep under names of their choice. A name holds one receiving end; a
new one under the same name takes the place of the old one, which is given up.
-/

namespace LorawanRouting

structure Consumers where
  held : Std.ExtTreeMap String Receiver

namespace Consumers

variable {α : Type}

def none : Consumers := ⟨∅⟩

def drop (cs : Consumers) (r : Registry α) (name : String) : Consumers × Registry α :=
  match cs.held[name]? with
  | some receiver => (⟨cs.held.erase name⟩, r.drop receiver)
  | Option.none => (cs, r)

def keep (cs : Consumers) (r : Registry α) (name : String) (receiver : Receiver) :
    Consumers × Registry α :=
  let (cs, r) := cs.drop r name
  (⟨cs.held.insert name receiver⟩, r)

def receive (cs : Consumers) (r : Registry α) (name : String) :
    Option (Received α) × Registry α :=
  match cs.held[name]? with
  | some receiver =>
    let (m, r) := r.receive receiver
    (some m, r)
  | Option.none => (Option.none, r)

end Consumers

end LorawanRouting
