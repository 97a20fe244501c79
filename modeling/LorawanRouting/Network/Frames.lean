import LorawanRouting.Message.Basic

/-!
Frames as a gateway of the network hears them, on one channel and at one strength.
-/

namespace LorawanRouting.Frames

def gateway : GatewayEui := ⟨[0, 1, 2, 3, 4, 5, 6, 7], rfl⟩

def protocol : ProtocolMetadata := ⟨.lora, "SF7BW125", "4/5"⟩

def metadata : GatewayMetadata := ⟨.zero _, 1000, 868100000, 0xC2200000, 0x40F00000⟩

def joinRequest (app : AppEui) (dev : DevEui) : JoinRequest :=
  ⟨List.replicate 23 0, app, dev, protocol, metadata⟩

def dataUp (address : DevAddr) : Uplink :=
  ⟨0x40 :: address.bytes.reverse ++ [0x00, 0x01, 0x00, 0x01, 0xaa], protocol, metadata⟩

def status (region : String) : GatewayStatus :=
  ⟨region, "integration gateway", "", 0, 0, 0, 0, 0⟩

end LorawanRouting.Frames
