import LorawanRouting.Device.Stored

/-!
Applications and the handlers that serve them, and what a store of applications does. A set puts
the whole application in place of the one with the same identifier.
-/

namespace LorawanRouting

structure Application where
  app : AppEui
  handler : String
  handlerAddress : String
  deriving DecidableEq, Repr

class ApplicationStore (σ : Type) where
  get : σ → AppEui → Except StoreError Application
  set : σ → Application → Reply σ StoreError Unit
  delete : σ → AppEui → Reply σ StoreError Unit

end LorawanRouting
