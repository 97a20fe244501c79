import LorawanRouting.Message.Basic

/-!
The race of brokers for one request. All peers are asked at once and have until the deadline to
answer. Answers are taken in the order of their arrival: the first that can be delivered is
accepted, an answer without a downlink needs no delivery, and when a delivery fails the next answer
takes its turn. Times are milliseconds from the start of the race.
-/

namespace LorawanRouting

inductive RequestKind
  | activation
  | uplink
  deriving DecidableEq, Repr

def RequestKind.name : RequestKind → String
  | activation => "activation"
  | uplink => "uplink"

namespace Race

/-- What a peer does when it is asked, and after which delay. -/
inductive Conduct (ρ : Type)
  | answers (delay : Nat) (answer : ρ)
  | refuses (delay : Nat)
  | crashes (delay : Nat)
  | silent

def Conduct.later {ρ : Type} (delay : Nat) : Conduct ρ → Conduct ρ
  | .answers own answer => .answers (own + delay) answer
  | .refuses own => .refuses (own + delay)
  | .crashes own => .crashes (own + delay)
  | .silent => .silent

structure Peer (ρ : Type) where
  id : String
  conduct : Conduct ρ

structure Arrival (ρ : Type) where
  id : String
  time : Nat
  answer : ρ
  deriving DecidableEq

variable {ρ σ : Type}

def Peer.arrival? (deadline : Nat) (p : Peer ρ) : Option (Arrival ρ) :=
  match p.conduct with
  | .answers delay answer => if delay ≤ deadline then some ⟨p.id, delay, answer⟩ else none
  | _ => none

def Peer.finish (deadline : Nat) (p : Peer ρ) : Nat :=
  match p.conduct with
  | .answers delay _ | .refuses delay | .crashes delay => min delay deadline
  | .silent => deadline

/-- Answers in the order of arrival; those of one moment in the order of the peers. -/
def arrivals (deadline : Nat) (peers : List (Peer ρ)) : List (Arrival ρ) :=
  (peers.filterMap (·.arrival? deadline)).mergeSort fun a b => a.time ≤ b.time

structure Tally where
  accepted : Option String
  responses : Nat
  deliveries : Nat
  deriving DecidableEq, Repr

def Tally.start : Tally := ⟨none, 0, 0⟩

structure Outcome where
  accepted : String
  responses : Nat
  deliveries : Nat
  deriving DecidableEq, Repr

def Tally.take (deliver : σ → Downlink → Bool × σ) (state : σ × Tally) (id : String)
    (downlink : Option Downlink) : σ × Tally :=
  let (s, t) := state
  let t := { t with responses := t.responses + 1 }
  if t.accepted.isSome then (s, t)
  else match downlink with
    | none => (s, { t with accepted := some id })
    | some m =>
      let t := { t with deliveries := t.deliveries + 1 }
      match deliver s m with
      | (true, s) => (s, { t with accepted := some id })
      | (false, s) => (s, t)

def collect (deliver : σ → Downlink → Bool × σ) (downlinkOf : ρ → Option Downlink) (s : σ)
    (answers : List (Arrival ρ)) : σ × Tally :=
  answers.foldl (fun state a => Tally.take deliver state a.id (downlinkOf a.answer)) (s, .start)

def deliveredAt (cost : Nat) (times : List Nat) : Nat :=
  times.foldl (fun now t => max now t + cost) 0

/--
How long a race takes. It waits for every peer and for its deliveries, which are the first ones
among the answers that carry a downlink.
-/
def elapsed (deadline cost : Nat) (downlinkOf : ρ → Option Downlink) (peers : List (Peer ρ))
    (t : Tally) : Nat :=
  let carrying := (arrivals deadline peers).filter fun a => (downlinkOf a.answer).isSome
  max (deliveredAt cost ((carrying.take t.deliveries).map (·.time)))
    ((peers.map (·.finish deadline)).foldl max 0)

end Race

end LorawanRouting
