import LorawanRouting.Device.Devices
import LorawanRouting.Message.Offer
import LorawanRouting.Network.Frames
import LorawanRouting.Network.Server
import LorawanRouting.Proofs.BrokerRuns
import LorawanRouting.Proofs.Directory
import LorawanRouting.Proofs.Downlinks
import LorawanRouting.Proofs.StoreParity

/-!
One broker with its devices. A store of devices that refuses nothing and whose records can be read
answers like a table, so a granted address is found in the table with its device; an uplink is passed on
for the first holder of its address.
-/

namespace LorawanRouting

namespace Refusing
open LawfulBackend (Holds)

variable {σ : Type} {kv : Refusing σ}

theorem refusal_of_nothing (h : kv.refused = []) (m : Method) : kv.refusal m = none := by
  simp [refusal, h]

instance [Backend σ] [LawfulBackend σ] : LawfulBackend (Refusing σ) where
  Holds kv c := kv.refused = [] ∧ Holds kv.inner c
  fields h key := (ask_of_passed (refusal_of_nothing h.1 _) _).trans (LawfulBackend.fields h.2 key)
  field h key name :=
    (ask_of_passed (refusal_of_nothing h.1 _) _).trans (LawfulBackend.field h.2 key name)
  members h key := (ask_of_passed (refusal_of_nothing h.1 _) _).trans (LawfulBackend.members h.2 key)
  apply {kv c} h writes := by
    have hpassed : (Method.ofBatch writes).findSome? kv.refusal = none :=
      List.findSome?_eq_none_iff.mpr fun m _ => refusal_of_nothing h.1 m
    obtain ⟨hans, hstate⟩ := LawfulBackend.apply h.2 writes
    simp only [Backend.apply, change, hpassed]
    exact ⟨hans, h.1, hstate⟩

end Refusing

namespace Devices

def Shows : Devices → DeviceTable → Prop
  | .tables s, t => s.Shows t
  | .records s, t => s.Shows t

theorem shows_inMemory : inMemory.Shows .empty := MemoryStore.shows_empty

theorem shows_onStorage_memory : (onStorage (.memory .empty)).Shows .empty :=
  ⟨.empty, ⟨rfl, MemoryBackend.contents_empty⟩, Contents.represents_empty⟩

theorem shows_onStorage_database : (onStorage (.database .empty)).Shows .empty :=
  ⟨.empty, ⟨rfl, ∅, ∅, rfl, Database.rows_empty⟩, Contents.represents_empty⟩

theorem simulation : Simulation (fun d fields => ∀ f ∈ fields, d.Storable f) Shows where
  get {s t} key h := by
    cases s with
    | tables s => exact (MemoryStore.simulation fun _ _ => True).get key h
    | records s => exact RecordStore.simulation.get key h
  byAddress {s t} address h := by
    cases s with
    | tables s => exact (MemoryStore.simulation fun _ _ => True).byAddress address h
    | records s => exact RecordStore.simulation.byAddress address h
  set {s t} d fields hfields h := by
    cases s with
    | tables s => exact (MemoryStore.simulation fun _ _ => True).set d fields trivial h
    | records s => exact RecordStore.simulation.set d fields hfields h
  delete {s t} key h := by
    cases s with
    | tables s => exact (MemoryStore.simulation fun _ _ => True).delete key h
    | records s => exact RecordStore.simulation.delete key h

theorem Shows.keyed {s : Devices} {t : DeviceTable} (h : s.Shows t) : t.Keyed := by
  cases s with
  | tables s => exact h.2.2
  | records s =>
    obtain ⟨c, -, hc⟩ := h
    exact hc.keyed

end Devices

namespace DeviceTable

variable {t : DeviceTable} {d : Device}

theorem Keyed.holders_of_single (h : t.Keyed) (hd : t.devices[d.key]? = some d)
    (haddress : ¬ d.address.isZero)
    (hother : ∀ key e, key ≠ d.key → t.devices[key]? = some e → e.address ≠ d.address) :
    t.holders d.address = [d] := by
  refine (h.ascending_holders d.address).eq_of_mem_iff (List.pairwise_singleton _ d) fun e => ?_
  rw [h.mem_holders, List.mem_singleton]
  constructor
  · intro hheld
    obtain ⟨he, hsame, -⟩ := hheld
    by_contra hne
    by_cases hkey : e.key = d.key
    · rw [hkey, hd] at he
      exact hne (Option.some.inj he).symm
    · exact hother e.key e hkey he hsame
  · rintro rfl
    exact ⟨hd, rfl, haddress⟩

theorem exists_of_activated (t : DeviceTable) (key : DeviceKey) (address : DevAddr)
    (sessionKey : NwkSKey) :
    ∃ d, (t.set (Device.activated key address sessionKey) DeviceField.activation).devices[key]? =
        some d ∧
      d.address = address ∧ d.counterUp = 0 ∧ d.counterDown = 0 := by
  refine ⟨(t.device key).copyFields (Device.activated key address sessionKey)
    (DeviceField.orAll DeviceField.activation), ?_, rfl, rfl, rfl⟩
  rw [getElem?_set]
  exact if_pos rfl

end DeviceTable

theorem frameAddress?_dataUp (address : DevAddr) :
    frameAddress? (Frames.dataUp address).payload = some address := by
  obtain ⟨bytes, hbytes⟩ := address
  match bytes, hbytes with
  | [_, _, _, _], _ => rfl

namespace Server

variable {δ : Type}

theorem bestOption_offers (uplink : Uplink) (band : Band) (gateway : GatewayEui) (join : Bool) :
    bestOption (DownlinkOption.offers uplink band gateway join) =
      some (.ofWindow uplink band gateway
        (if join then band.joinAcceptDelays else band.receiveDelays) .first) := by
  have hscore : ¬ Window.second.score < Window.first.score := by decide
  simp only [DownlinkOption.offers, bestOption, DownlinkOption.ofWindow, if_neg hscore]

theorem handles_addressOf (s : Server δ) (last : UInt8) :
    s.announcement.handles (s.addressOf last) = true := by
  rw [Announcement.handles_iff]
  refine ⟨_, List.mem_singleton_self _, fun i hi => ?_⟩
  have hfirst : i / 8 = 0 := Nat.div_eq_of_lt hi
  simp [AddressRange.bit, AddressRange.of, addressOf, hfirst]

variable [DeviceStore δ]

def granting (s : Server δ) (key : DeviceKey) : Server δ :=
  { s with
    nextByte := s.nextByte + 1
    devices := (DeviceStore.activate s.devices key (s.addressOf s.nextByte) sessionKey).state }

theorem activate_of_unknown {s : Server δ} {request : Activation} {e : StoreError}
    (h : ApplicationStore.get s.broker.applications request.app = .error e) :
    s.activate request = (.refuses 0, s) := by
  rw [activate, h]

theorem state_activate_of_known {s : Server δ} {request : Activation} {a : Application}
    (h : ApplicationStore.get s.broker.applications request.app = .ok a) :
    (s.activate request).2 = s.granting ⟨request.app, request.dev⟩ := by
  simp only [activate, h]
  split <;> rfl

theorem state_activate (s : Server δ) (request : Activation) :
    (s.activate request).2 = s ∨
      (s.activate request).2 = s.granting ⟨request.app, request.dev⟩ := by
  cases h : ApplicationStore.get s.broker.applications request.app with
  | error e => exact Or.inl (congrArg Prod.snd (activate_of_unknown h))
  | ok a => exact Or.inr (state_activate_of_known h)

theorem id_activate (s : Server δ) (request : Activation) : (s.activate request).2.id = s.id := by
  rcases s.state_activate request with hstate | hstate
  · rw [hstate]
  · rw [hstate]
    rfl

theorem activate_answers {s : Server δ} {request : Activation} {delay : Nat} {m : Downlink}
    (h : (s.activate request).1 = .answers delay m) :
    delay = 0 ∧ (∃ a, ApplicationStore.get s.broker.applications request.app = .ok a) ∧
      ∃ option, bestOption request.options = some option ∧
        m = ⟨(s.addressOf s.nextByte).bytes, some option⟩ := by
  cases ha : ApplicationStore.get s.broker.applications request.app with
  | error e =>
    rw [activate_of_unknown ha] at h
    cases h
  | ok a =>
    simp only [activate, ha] at h
    split at h
    case h_1 option _ hoption =>
      obtain ⟨rfl, rfl⟩ := Race.Conduct.answers.inj h
      exact ⟨rfl, ⟨a, rfl⟩, option, hoption, rfl⟩
    case h_2 => cases h

def counting (s : Server δ) (holder : Device) : Server δ :=
  { s with devices := (DeviceStore.set s.devices (countFrame holder) [.counterUp, .totals]).state }

theorem uplink_frame (s : Server δ) (m : RoutedUplink) :
    (s.uplink m).2.id = s.id ∧ ((s.uplink m).2.devices = s.devices ∨
      ∃ holder, (s.uplink m).2.devices = (s.counting holder).devices) := by
  rw [uplink]
  cases frameAddress? m.payload with
  | none => exact ⟨rfl, .inl rfl⟩
  | some address =>
    dsimp only
    split
    case h_1 | h_2 => exact ⟨rfl, .inl rfl⟩
    case h_3 holder others _ =>
      split
      case isFalse => exact ⟨rfl, .inl rfl⟩
      case isTrue =>
        split
        case h_1 => exact ⟨rfl, .inr ⟨holder, rfl⟩⟩
        case h_2 => split <;> exact ⟨rfl, .inr ⟨holder, rfl⟩⟩

theorem uplink_of_taken {s : Server δ} {m : RoutedUplink} {address : DevAddr} {holder : Device}
    {others : List Device} {a : Application} (haddress : frameAddress? m.payload = some address)
    (hheld : DeviceStore.byAddress s.devices address = .ok (holder :: others)) (hroom : HasRoom holder)
    (hcounted : (DeviceStore.set s.devices (countFrame holder) [.counterUp, .totals]).answer = .ok ())
    (ha : ApplicationStore.get s.broker.applications holder.app = .ok a)
    (htakes : s.broker.handlers.Takes a.handler) :
    ∃ handlers,
      s.uplink m =
        (.answers 0 none, { s.counting holder with broker := s.broker.withHandlers handlers }) ∧
      s.broker.handlers.Queued a.handler
        ⟨holder.app, holder.dev, m.payload, m.protocol, [m.gateway]⟩ handlers := by
  -- counting a frame does not change whose it is
  have hsent : s.broker.sendUplink ⟨(countFrame holder).app, (countFrame holder).dev, m.payload,
      m.protocol, [m.gateway]⟩ = ((s.broker.handlers.send a.handler ⟨holder.app, holder.dev,
        m.payload, m.protocol, [m.gateway]⟩).mapState s.broker.withHandlers).mapError .stream :=
    Broker.sendUplink_of_found ha
  obtain ⟨hok, hqueued⟩ := Registry.send_of_takes htakes
    ⟨holder.app, holder.dev, m.payload, m.protocol, [m.gateway]⟩
  refine ⟨_, ?_, hqueued⟩
  simp only [uplink, haddress, hheld, if_pos hroom, hcounted, hsent, Reply.mapError, Reply.mapState, hok]
  rfl

/-- The store refuses nothing, and all of its records can be read. -/
def Readable (s : Server Devices) : Prop := ∃ t, s.devices.Shows t

variable {s : Server Devices} {t : DeviceTable}

theorem shows_granting (h : s.devices.Shows t) (key : DeviceKey) :
    (s.granting key).devices.Shows
      (t.set (Device.activated key (s.addressOf s.nextByte) sessionKey) DeviceField.activation) :=
  (Devices.simulation.set _ DeviceField.activation
    (fun f hf hseen => absurd (hseen ▸ hf) (by decide)) h).2

theorem shows_counting (h : s.devices.Shows t) (holder : Device) :
    (DeviceStore.set s.devices (countFrame holder) [.counterUp, .totals]).answer = .ok () ∧
      (s.counting holder).devices.Shows (t.set (countFrame holder) [.counterUp, .totals]) :=
  Devices.simulation.set (countFrame holder) [.counterUp, .totals]
    (fun f hf hseen => absurd (hseen ▸ hf) (by decide)) h

theorem Readable.activate (h : s.Readable) (request : Activation) :
    (s.activate request).2.Readable := by
  obtain ⟨t, ht⟩ := h
  rcases s.state_activate request with hstate | hstate
  · rw [hstate]
    exact ⟨t, ht⟩
  · rw [hstate]
    exact ⟨_, shows_granting ht _⟩

theorem Readable.uplink (h : s.Readable) (m : RoutedUplink) : (s.uplink m).2.Readable := by
  obtain ⟨t, ht⟩ := h
  rcases (s.uplink_frame m).2 with hdevices | ⟨holder, hdevices⟩
  · exact ⟨t, hdevices ▸ ht⟩
  · exact ⟨_, hdevices ▸ (shows_counting ht holder).2⟩

theorem Readable.get_granting (h : s.Readable) (key : DeviceKey) :
    ∃ d, DeviceStore.get (s.granting key).devices key = .ok d ∧
      d.address = s.addressOf s.nextByte ∧ d.counterUp = 0 ∧ d.counterDown = 0 := by
  obtain ⟨t, ht⟩ := h
  obtain ⟨d, hd, hgranted⟩ := t.exists_of_activated key (s.addressOf s.nextByte) sessionKey
  refine ⟨d, ?_, hgranted⟩
  rw [Devices.simulation.get key (shows_granting ht key)]
  simp only [DeviceStore.get, hd]

theorem get_eq_ok_iff (h : s.devices.Shows t) {key : DeviceKey} {d : Device} :
    DeviceStore.get s.devices key = .ok d ↔ t.devices[key]? = some d := by
  rw [Devices.simulation.get key h]
  simp only [DeviceStore.get]
  cases t.devices[key]? <;> simp

theorem Readable.address_ne_of_not_holder (h : s.Readable) {address : DevAddr} {ds : List Device}
    (hheld : DeviceStore.byAddress s.devices address = .ok ds) (hzero : ¬ address.isZero)
    {key : DeviceKey} {d : Device} (hd : DeviceStore.get s.devices key = .ok d)
    (hkey : key ∉ ds.map Device.key) : d.address ≠ address := by
  obtain ⟨t, ht⟩ := h
  rw [get_eq_ok_iff ht] at hd
  rw [Devices.simulation.byAddress address ht] at hheld
  obtain rfl := ht.keyed hd
  obtain rfl := Except.ok.inj hheld
  intro haddress
  exact hkey (List.mem_map_of_mem (ht.keyed.mem_holders.mpr ⟨hd, haddress, hzero⟩))

theorem Readable.uplink_of_single (h : s.Readable) {m : RoutedUplink} {key : DeviceKey} {d : Device}
    {a : Application} (hd : DeviceStore.get s.devices key = .ok d) (hzero : ¬ d.address.isZero)
    (hother : ∀ other e, other ≠ key → DeviceStore.get s.devices other = .ok e →
      e.address ≠ d.address)
    (hroom : HasRoom d) (haddress : frameAddress? m.payload = some d.address)
    (ha : ApplicationStore.get s.broker.applications key.app = .ok a)
    (htakes : s.broker.handlers.Takes a.handler) :
    (s.uplink m).1 = .answers 0 none ∧
      s.broker.handlers.Queued a.handler ⟨key.app, key.dev, m.payload, m.protocol, [m.gateway]⟩
        (s.uplink m).2.broker.handlers := by
  obtain ⟨t, ht⟩ := h
  rw [get_eq_ok_iff ht] at hd
  obtain rfl := ht.keyed hd
  have hheld : DeviceStore.byAddress s.devices d.address = .ok [d] := by
    rw [Devices.simulation.byAddress d.address ht]
    exact congrArg Except.ok (ht.keyed.holders_of_single hd hzero fun other e hne he =>
      hother other e hne ((get_eq_ok_iff ht).mpr he))
  obtain ⟨handlers, huplink, hqueued⟩ :=
    uplink_of_taken haddress hheld hroom (shows_counting ht d).1 ha htakes
  rw [huplink]
  exact ⟨rfl, hqueued⟩

end Server

end LorawanRouting
