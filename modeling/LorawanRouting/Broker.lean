import LorawanRouting.Application.Store
import LorawanRouting.Message.Basic
import LorawanRouting.Stream.Registry

/-!
The broker: downlinks go to routers by name, uplinks to the handler that the application is
registered with. Routers and handlers have streams apart from each other, so that their names never
meet.
-/

namespace LorawanRouting

inductive BrokerError
  | stream (cause : RegistryError)
  | unknownApplication (app : AppEui)
  | store (cause : StoreError)
  deriving DecidableEq, Repr

namespace BrokerError

def message? : BrokerError → Option String
  | stream cause => some cause.message
  | unknownApplication app => some s!"no handler registered for application {app.text}"
  | store cause => cause.message?

def isNotActive : BrokerError → Bool
  | stream (.notActive _) => true
  | _ => false

end BrokerError

structure Broker (α : Type) where
  routers : Registry Downlink
  handlers : Registry HandlerUplink
  applications : α

namespace Broker

variable {α : Type}

def new (streamBuffer : Nat) (applications : α) : Broker α :=
  ⟨.new streamBuffer, .new streamBuffer, applications⟩

def withRouters (b : Broker α) (routers : Registry Downlink) : Broker α := { b with routers }

def withHandlers (b : Broker α) (handlers : Registry HandlerUplink) : Broker α :=
  { b with handlers }

def activateRouter (b : Broker α) (id : String) : Reply (Broker α) BrokerError Receiver :=
  ((b.routers.activate id).mapState b.withRouters).mapError .stream

def deactivateRouter (b : Broker α) (id : String) : Reply (Broker α) BrokerError Unit :=
  ((b.routers.deactivate id).mapState b.withRouters).mapError .stream

def sendDownlink (b : Broker α) (id : String) (m : Downlink) :
    Reply (Broker α) BrokerError Unit :=
  ((b.routers.send id m).mapState b.withRouters).mapError .stream

def activateHandler (b : Broker α) (id : String) : Reply (Broker α) BrokerError Receiver :=
  ((b.handlers.activate id).mapState b.withHandlers).mapError .stream

def deactivateHandler (b : Broker α) (id : String) : Reply (Broker α) BrokerError Unit :=
  ((b.handlers.deactivate id).mapState b.withHandlers).mapError .stream

def sendUplink [ApplicationStore α] (b : Broker α) (m : HandlerUplink) :
    Reply (Broker α) BrokerError Unit :=
  match ApplicationStore.get b.applications m.app with
  | .error .notFound => ⟨.error (.unknownApplication m.app), b⟩
  | .error e => ⟨.error (.store e), b⟩
  | .ok a => ((b.handlers.send a.handler m).mapState b.withHandlers).mapError .stream

end Broker

end LorawanRouting
