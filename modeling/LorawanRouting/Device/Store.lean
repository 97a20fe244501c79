import LorawanRouting.Device.Stored

/-!
What a store of devices does. Devices are found by their key and by the address they hold; an
address may be held by several devices, which are then listed in the order of their keys. A set
writes the named fields of a device, or all if none is named, and creates the device if need be.
-/

namespace LorawanRouting

class DeviceStore (σ : Type) where
  get : σ → DeviceKey → Except StoreError Device
  byAddress : σ → DevAddr → Except StoreError (List Device)
  set : σ → Device → List DeviceField → Reply σ StoreError Unit
  delete : σ → DeviceKey → Reply σ StoreError Unit

def DeviceStore.activate {σ : Type} [DeviceStore σ] (store : σ) (key : DeviceKey)
    (address : DevAddr) (sessionKey : NwkSKey) : Reply σ StoreError Unit :=
  DeviceStore.set store (Device.activated key address sessionKey) DeviceField.activation

end LorawanRouting
