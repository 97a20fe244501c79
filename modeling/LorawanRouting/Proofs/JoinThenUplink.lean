import LorawanRouting.Proofs.Activation
import LorawanRouting.Proofs.NetworkRuns
import LorawanRouting.Proofs.Uplinks

/-!
A device that joins and is then heard, in whatever order the answers arrive. The broker whose answer a
join takes has the device in its store under the address it granted; if the device alone has this address
there, the broker is still announced for it and the handler takes messages, the next uplink from the
address is queued for that handler.
-/

namespace LorawanRouting

namespace Router

variable {κ ρ : Type} {r : Router κ}

theorem bandOf_count (r : Router κ) (eui g : GatewayEui) (f : Utilization → Utilization) :
    (r.changeGateway eui (·.count f)).bandOf g = r.bandOf g := by
  rw [bandOf, bandOf, gateway_changeGateway]
  by_cases hg : g = eui
  · subst hg
    rw [if_pos rfl]
    rfl
  · rw [if_neg hg]

theorem bandOf_settle (kind : RequestKind) (downlinkOf : ρ → Option Downlink) (r : Router κ)
    (answers : List (Race.Arrival ρ)) (g : GatewayEui) :
    (settle kind downlinkOf r answers).2.bandOf g = r.bandOf g := by
  rcases settle_router kind downlinkOf r answers with hsame | ⟨m, hdelivers, hsent⟩
  · rw [hsame]
  · obtain ⟨o, -, -, hdeliver⟩ := deliver_eq_of_delivers hdelivers
    rw [hsent, hdeliver]
    exact bandOf_count _ o.gateway g Utilization.addTx

theorem SentNothing.firstAccepted {s : Router κ} (h : r.SentNothing s)
    {earlier : List (Race.Arrival Downlink)} {a : Race.Arrival Downlink}
    (hearlier : ∀ e ∈ earlier, ¬ r.Delivers e.answer) (ha : r.Delivers a.answer)
    (later : List (Race.Arrival Downlink)) :
    Race.FirstAccepted deliver some s (earlier ++ a :: later) earlier a later := by
  have hacceptable : ∀ e : Race.Arrival Downlink, s.Acceptable some e ↔ r.Delivers e.answer := by
    intro e
    simp [Acceptable, h.delivers_iff]
  simp only [← hacceptable] at hearlier ha
  exact firstAccepted_of_first hearlier ha later

end Router

namespace Network

variable {n : Network Devices} {eui : GatewayEui} {band : Band}

theorem sentNothing_readyForJoin (n : Network Devices) (eui : GatewayEui) :
    n.router.SentNothing (n.readyForJoin eui) :=
  ((Router.sentNothing_countRx n.router eui).trans
    (Router.sentNothing_forgetDeparted _ n.directory.all)).trans
      (Router.sentNothing_connectAll n.connect _ n.directory.all)

theorem bandOf_readyForJoin (n : Network Devices) (eui : GatewayEui) :
    (n.readyForJoin eui).bandOf eui = n.router.bandOf eui := by
  rw [readyForJoin, Router.connectAll_frame]
  exact Router.bandOf_countRx n.router eui

theorem bestOption_activation (eui : GatewayEui) (request : JoinRequest) (band : Band) :
    Server.bestOption (activation eui request band).options =
      some (.ofWindow request.toUplink band eui band.joinAcceptDelays .first) :=
  Server.bestOption_offers _ band eui true

theorem Sound.of_join_ok (h : n.Sound) {delays : Nat → Nat} {request : JoinRequest}
    (hok : (n.activate delays eui request).1 = .ok ()) :
    let joined := (n.activate delays eui request).2
    ∃ band, n.router.bandOf eui = .ok band ∧ joined.router.bandOf eui = .ok band ∧
      ∃ accepted,
        (∃ earlier later, Race.FirstAccepted Router.deliver some (n.readyForJoin eui)
          (answers (·.activate (activation eui request band)) delays n n.directory.all)
          earlier accepted later) ∧
        n.router.Sent accepted.answer joined.router ∧
        ∃ connection s, joined.router.connections[accepted.id]? = some connection ∧
          n.servers[connection.client]? = some s ∧ s.id = accepted.id ∧
          (∃ own, (s.activate (activation eui request band)).1 = .answers own accepted.answer ∧
            own + delays connection.client = accepted.time) ∧
          joined.servers[connection.client]? = some (s.activate (activation eui request band)).2 := by
  intro joined
  cases hband : n.router.bandOf eui with
  | error e =>
    rw [activate_of_refused delays request hband] at hok
    cases hok
  | ok band =>
    obtain ⟨hresult, hrouter, -, hservers, hconnections⟩ := h.join_spec delays request hband
    obtain ⟨earlier, accepted, later, hsplit, hearlier, hdelivers, hsent⟩ :=
      (Router.settle_some (sentNothing_readyForJoin n eui) .activation _).2.1 (hresult.symm.trans hok)
    have hmem : accepted ∈
        answers (·.activate (activation eui request band)) delays n n.directory.all := by
      rw [hsplit]
      simp
    obtain ⟨e, he, s, hs, hanswers, -, hid⟩ := (h.mem_answers h.nodup_all).mp hmem
    have hserver := h.hasServer_of_mem_brokers h.nodup_all he
    rw [HasServer, List.getElem?_map, hs] at hserver
    have hfirst := (sentNothing_readyForJoin n eui).firstAccepted hearlier hdelivers later
    rw [← hsplit] at hfirst
    refine ⟨band, rfl, ?_, accepted, ⟨earlier, later, hfirst⟩, hrouter ▸ hsent,
      ⟨e.1.netAddress, e.2⟩, s, hid ▸ hconnections e he, hs, hid ▸ Option.some.inj hserver, hanswers,
      hservers e he s hs⟩
    rw [hrouter, Router.bandOf_settle, bandOf_readyForJoin, hband]

theorem Sound.uplink_ok (h : n.Sound) {delays : Nat → Nat} {frame : Uplink} {address : DevAddr}
    {a : Announcement} {number : Nat} {s : Server Devices} (hband : n.router.bandOf eui = .ok band)
    (haddress : frameAddress? frame.payload = some address)
    (hannounced : n.directory.entries[a.id]? = some a) (hhandles : a.handles address = true)
    (hconnected : n.router.connections[a.id]? = some ⟨a.netAddress, number⟩)
    (hs : n.servers[number]? = some s)
    (htaken : (s.uplink (routed eui frame band)).1 = .answers 0 none)
    (htime : delays number ≤ n.router.requestTimeout) :
    (n.uplink delays eui frame).1 = .ok () ∧
      (n.uplink delays eui frame).2.servers[number]? =
        some (s.uplink (routed eui frame band)).2 := by
  have hids := h.nodup_discover address
  obtain ⟨hresult, -, -, hservers, -⟩ := h.uplink_spec delays frame hband haddress
  have hreached : (a, number) ∈ n.brokers (n.directory.discover address) := by
    refine (Router.mem_reached_of_nodup hids a number).mpr ⟨?_, ?_⟩
    · obtain ⟨cs, hcs⟩ := h.announced
      rw [hcs, Directory.getElem?_entries_after] at hannounced
      rw [hcs, Directory.discover, List.mem_filter]
      exact ⟨Directory.mem_all_after.mpr hannounced, hhandles⟩
    · rw [Router.client?, Router.cached?, hconnected]
      simp
  have hmem : (⟨a.id, delays number, none⟩ : Race.Arrival (Option Downlink)) ∈
      answers (·.uplink (routed eui frame band)) delays n (n.directory.discover address) :=
    (h.mem_answers hids).mpr ⟨(a, number), hreached, s, hs, ⟨0, htaken, Nat.zero_add _⟩, htime, rfl⟩
  have hready : n.router.SentNothing (n.readyForUplink eui address) :=
    (Router.sentNothing_countRx n.router eui).trans
      (Router.sentNothing_connectAll n.connect _ _)
  refine ⟨?_, hservers (a, number) hreached s hs⟩
  rw [hresult]
  exact (Router.settle_id hready .uplink _).1.mpr ⟨_, hmem, Or.inl rfl⟩

theorem Sound.id_of_announced (h : n.Sound) {id : String} {a : Announcement}
    (ha : n.directory.entries[id]? = some a) : a.id = id := by
  obtain ⟨cs, hcs⟩ := h.announced
  rw [hcs, Directory.getElem?_entries_after] at ha
  exact Directory.id_of_announced? ha

/-- What a join that goes through grants, and that the device is heard from then on. -/
theorem joined_device_is_heard (requestTimeout downlinkBuffer : Nat) (cs : List (Call Devices))
    (hcs : ∀ c ∈ cs, c.Storable) (delays : Nat → Nat) (eui : GatewayEui) (app : AppEui) (dev : DevEui)
    (hok : ((after requestTimeout downlinkBuffer cs).activate delays eui
      (Frames.joinRequest app dev)).1 = .ok ()) :
    let n : Network Devices := after requestTimeout downlinkBuffer cs
    let joined := (n.activate delays eui (Frames.joinRequest app dev)).2
    ∃ band accepted connection s granted device application,
      let request := activation eui (Frames.joinRequest app dev) band
      let address := s.addressOf s.nextByte
      n.router.bandOf eui = .ok band ∧
      (∃ earlier later, Race.FirstAccepted Router.deliver some (n.readyForJoin eui)
        (answers (·.activate request) delays n n.directory.all) earlier accepted later) ∧
      joined.router.connections[accepted.id]? = some connection ∧
      n.servers[connection.client]? = some s ∧ s.id = accepted.id ∧
      (s.activate request).1 = .answers 0 accepted.answer ∧
      accepted.time = delays connection.client ∧
      joined.servers[connection.client]? = some granted ∧
      n.router.Sent accepted.answer joined.router ∧
      accepted.answer = ⟨address.bytes, some (.ofWindow (Frames.joinRequest app dev).toUplink band eui
        band.joinAcceptDelays .first)⟩ ∧
      s.announcement.handles address = true ∧
      DeviceStore.get granted.devices ⟨app, dev⟩ = .ok device ∧ device.address = address ∧
      device.counterUp = 0 ∧ device.counterDown = 0 ∧
      ApplicationStore.get granted.broker.applications app = .ok application ∧
      (¬ address.isZero →
        (∀ key other, key ≠ ⟨app, dev⟩ → DeviceStore.get granted.devices key = .ok other →
          other.address ≠ address) →
        (∃ a, joined.directory.entries[accepted.id]? = some a ∧ a.netAddress = connection.address ∧
          a.handles address = true) →
        granted.broker.handlers.Takes application.handler →
        device.totals.received.toNat + 1 < UInt64.size →
        ∀ delays' : Nat → Nat, delays' connection.client ≤ requestTimeout →
        let heard := joined.uplink delays' eui (Frames.dataUp address)
        heard.1 = .ok () ∧ ∃ after, heard.2.servers[connection.client]? = some after ∧
          granted.broker.handlers.Queued application.handler
            ⟨app, dev, (Frames.dataUp address).payload, Frames.protocol,
              [{ Frames.metadata with gateway := eui }]⟩
            after.broker.handlers) := by
  intro n joined
  have h : n.Sound := sound_after requestTimeout downlinkBuffer hcs
  obtain ⟨band, hband, hlater, accepted, hfirst, hsent, connection, s, hconnection, hs, hid,
    ⟨own, hanswer, htime⟩, hgranted⟩ := h.of_join_ok hok
  obtain ⟨rfl, ⟨application, happ⟩, option, hoption, hpayload⟩ := Server.activate_answers hanswer
  obtain rfl := Option.some.inj ((bestOption_activation eui _ band).symm.trans hoption)
  rw [Server.state_activate_of_known happ] at hgranted
  have hreadable : s.Readable := h.readable s (List.mem_of_getElem? hs)
  obtain ⟨device, hdevice, haddress, hup, hdown⟩ := hreadable.get_granting ⟨app, dev⟩
  refine ⟨band, accepted, connection, s, s.granting ⟨app, dev⟩, device, application, hband, hfirst,
    hconnection, hs, hid, hanswer, htime.symm.trans (Nat.zero_add _), hgranted, hsent, hpayload,
    s.handles_addressOf s.nextByte, hdevice, haddress, hup, hdown, happ, ?_⟩
  intro hzero hother hentry htakes hfew delays' hintime heard
  obtain ⟨a, hentry, hnet, hhandles⟩ := hentry
  have hjoined : joined.Sound := h.join delays eui (Frames.joinRequest app dev)
  have hgranting : (s.granting ⟨app, dev⟩).Readable :=
    hjoined.readable _ (List.mem_of_getElem? hgranted)
  have hbroker : a.id = accepted.id := hjoined.id_of_announced hentry
  rw [← hbroker] at hentry
  have hconnected : joined.router.connections[a.id]? = some ⟨a.netAddress, connection.client⟩ := by
    rw [hbroker, hnet]
    exact hconnection
  have hframe := frameAddress?_dataUp (s.addressOf s.nextByte)
  have hroom : Server.HasRoom device := ⟨by rw [hup]; decide, hfew⟩
  have htimeout : joined.router.requestTimeout = requestTimeout :=
    (requestTimeout_run n (.join delays eui (Frames.joinRequest app dev))).trans
      (requestTimeout_after requestTimeout downlinkBuffer cs)
  obtain ⟨huplink, hqueued⟩ := hgranting.uplink_of_single
    (m := routed eui (Frames.dataUp (s.addressOf s.nextByte)) band) hdevice (haddress ▸ hzero)
    (haddress ▸ hother) hroom (haddress ▸ hframe) happ htakes
  obtain ⟨hheard, hafter⟩ :=
    hjoined.uplink_ok hlater hframe hentry hhandles hconnected hgranted huplink (htimeout ▸ hintime)
  exact ⟨hheard, _, hafter, hqueued⟩

def oneKey : DeviceKey := ⟨⟨[0, 0, 0, 0, 0, 0, 0, 1], rfl⟩, ⟨[0, 0, 0, 0, 0, 0, 0, 2], rfl⟩⟩

def oneAddress : DevAddr := ⟨[0x26, 0, 0, 1], rfl⟩

def otherAddress : DevAddr := ⟨[0x27, 0, 0, 1], rfl⟩

def broker (id : String) (firstByte : UInt8) (number : Nat) (devices : Devices) : List (Call Devices) :=
  [.add (.new id firstByte devices 16), .server number (.register oneKey.app "handler-1"),
    .server number (.handler (.activate "handler-1"))]

def oneBroker (devices : Devices) (cs : List ServerCall) : List (Call Devices) :=
  .gateway (.report Frames.gateway (Frames.status "EU_863_870")) ::
    .gateway (.subscribe Frames.gateway) :: broker "broker-a" 0x26 0 devices ++ cs.map (.server 0)

def twoBrokers : List (Call Devices) :=
  oneBroker (.onStorage (.memory .empty)) [] ++
    broker "broker-b" 0x27 1 (.onStorage (.database .empty))

def europe : Band := Band.table.head (by decide)

def joinAccept (address : DevAddr) : Downlink :=
  ⟨address.bytes, some (.ofWindow (Frames.joinRequest oneKey.app oneKey.dev).toUplink europe
    Frames.gateway europe.joinAcceptDelays .first)⟩

def atOnce : Nat → Nat := fun _ => 0

def secondFirst : Nat → Nat := fun number => 5 - number

def joinIn (delays : Nat → Nat) (cs : List (Call Devices)) : Except RouterError Unit × Network Devices :=
  (after 2000 16 cs).activate delays Frames.gateway (Frames.joinRequest oneKey.app oneKey.dev)

def ofServer {α : Type} (n : Network Devices) (number : Nat) (f : Server Devices → α) : Option α :=
  n.servers[number]?.map f

theorem storable_twoBrokers : ∀ c ∈ twoBrokers, c.Storable := by
  intro c hc
  simp only [twoBrokers, oneBroker, broker, List.map_nil, List.append_nil, List.cons_append,
    List.nil_append, List.mem_cons, List.not_mem_nil, or_false] at hc
  rcases hc with rfl | rfl | rfl | rfl | rfl | rfl | rfl | rfl
  case inr.inr.inl => exact ⟨_, Devices.shows_onStorage_memory⟩
  case inr.inr.inr.inr.inr.inl => exact ⟨_, Devices.shows_onStorage_database⟩
  all_goals trivial

def bothAccepts : List (Race.Arrival Downlink) :=
  [⟨"broker-b", 4, joinAccept otherAddress⟩, ⟨"broker-a", 5, joinAccept oneAddress⟩]

theorem answers_secondFirst :
    let n := after 2000 16 twoBrokers
    let request := activation Frames.gateway (Frames.joinRequest oneKey.app oneKey.dev) europe
    answers (·.activate request) secondFirst n n.directory.all = bothAccepts := by
  intro n request
  have harrived : (Router.askAll (askServer (·.activate request) secondFirst)
      ((n.brokers n.directory.all).map fun e => (e.1.id, e.2)) n.servers).1.filterMap
        (·.arrival? n.router.requestTimeout) =
      [⟨"broker-a", 5, joinAccept oneAddress⟩, ⟨"broker-b", 4, joinAccept otherAddress⟩] := by
    decide +kernel
  rw [answers, Race.arrivals, harrived]
  simp [List.mergeSort, bothAccepts]

/-- Both brokers grant the device an address. The second answers first, and the device is heard at the
address that it granted. -/
theorem joined_device_is_heard_by_second :
    let joined := joinIn secondFirst twoBrokers
    (∀ c ∈ twoBrokers, c.Storable) ∧ joined.1 = .ok () ∧
      ofServer joined.2 0 (fun s => (DeviceStore.get s.devices oneKey).map Device.address) =
        some (.ok oneAddress) ∧
      ofServer joined.2 1 (fun s => (DeviceStore.get s.devices oneKey).map Device.address) =
        some (.ok otherAddress) ∧
      (joined.2.uplink secondFirst Frames.gateway (Frames.dataUp otherAddress)).1 = .ok () := by
  intro joined
  have hsound := sound_after 2000 16 storable_twoBrokers
  have hband : (after 2000 16 twoBrokers).router.bandOf Frames.gateway = .ok europe := by
    decide +kernel
  obtain ⟨hresult, hrouter, -⟩ :=
    hsound.join_spec secondFirst (Frames.joinRequest oneKey.app oneKey.dev) hband
  rw [answers_secondFirst] at hresult hrouter
  have hok : joined.1 = .ok () := hresult.trans (by decide +kernel)
  obtain ⟨band, accepted, connection, s, granted, device, application, -, -, hconnection, hs, hid, -,
    -, hgranted, hsent, hpayload, -, hdevice, -, -, -, happ, hheard⟩ :=
    joined_device_is_heard 2000 16 twoBrokers storable_twoBrokers secondFirst Frames.gateway oneKey.app
      oneKey.dev hok
  have haddress : s.addressOf s.nextByte = otherAddress := by
    obtain ⟨o, -, hqueued, -⟩ := hsent
    obtain ⟨c, hc, hm⟩ := hqueued.exists_mem
    have hmem := List.mem_flatMap_of_mem hc hm
    rw [hrouter] at hmem
    have hqueues : (Router.settle .activation some
        ((after 2000 16 twoBrokers).readyForJoin Frames.gateway)
        bothAccepts).2.downlinks.channels.flatMap (·.queue) = [joinAccept otherAddress] := by
      decide +kernel
    rw [hqueues, List.mem_singleton, hpayload] at hmem
    exact Identifier.ext (congrArg Downlink.payload hmem)
  -- the first server gives out no address of the second
  have hclient : connection.client = 1 := by
    have hlength : joined.2.servers.length = 2 := by decide +kernel
    have hfirst : ofServer (after 2000 16 twoBrokers) 0 Server.firstByte = some 0x26 := by
      decide +kernel
    have hlt : connection.client < joined.2.servers.length := (List.getElem?_eq_some_iff.mp hgranted).1
    by_contra hother
    have hzero : connection.client = 0 := by omega
    rw [hzero] at hs
    have hbyte : s.firstByte = 0x26 :=
      Option.some.inj ((congrArg (Option.map Server.firstByte) hs).symm.trans hfirst)
    have hbytes := congrArg Identifier.bytes haddress
    simp [Server.addressOf, hbyte, otherAddress] at hbytes
  rw [hclient] at hs hgranted
  have hafter : ∀ {α : Type} (f : Server Devices → α), ofServer joined.2 1 f = some (f granted) :=
    fun f => congrArg (Option.map f) hgranted
  have hbroker : accepted.id = "broker-b" := by
    have hname : ofServer (after 2000 16 twoBrokers) 1 Server.id = some "broker-b" := by decide +kernel
    exact hid.symm.trans (Option.some.inj ((congrArg (Option.map Server.id) hs).symm.trans hname))
  have happlication : application.handler = "handler-1" := by
    have hfound : ofServer joined.2 1
        (fun s => ApplicationStore.get s.broker.applications oneKey.app) =
          some (.ok ⟨oneKey.app, "handler-1", "handler-1:1904"⟩) := by decide +kernel
    rw [hafter, happ] at hfound
    exact congrArg Application.handler (Except.ok.inj (Option.some.inj hfound))
  have hreadable : granted.Readable :=
    (hsound.join _ _ _).readable granted (List.mem_of_getElem? hgranted)
  refine ⟨storable_twoBrokers, hok, by decide +kernel, by decide +kernel, ?_⟩
  rw [← haddress]
  refine (hheard ?_ ?_ ?_ ?_ ?_ secondFirst ?_).1
  · rw [haddress]
    decide
  · intro key other hne hother
    have hheld : ofServer joined.2 1 (fun s => DeviceStore.byAddress s.devices otherAddress) =
        some (.ok [Device.activated oneKey otherAddress Server.sessionKey]) := by decide +kernel
    rw [hafter] at hheld
    rw [haddress]
    refine hreadable.address_ne_of_not_holder (Option.some.inj hheld) (by decide) hother ?_
    exact fun hmem => hne (List.mem_singleton.mp hmem)
  · have haddress' : joined.2.router.connections["broker-b"]?.map Connection.address =
        some "broker-b:1902" :=
      (congrArg (fun r => r.connections["broker-b"]?.map Connection.address) hrouter).trans
        (by decide +kernel)
    have hentry : joined.2.directory.entries["broker-b"]?.map
        (fun a => (a.netAddress, a.handles otherAddress)) = some ("broker-b:1902", true) := by
      decide +kernel
    rw [hbroker] at hconnection ⊢
    have hnet : connection.address = "broker-b:1902" :=
      Option.some.inj ((congrArg (Option.map Connection.address) hconnection).symm.trans haddress')
    obtain ⟨a, ha, hpair⟩ := Option.map_eq_some_iff.mp hentry
    obtain ⟨hannounced, hhandles⟩ := Prod.mk.inj hpair
    exact ⟨a, ha, hannounced.trans hnet.symm, haddress ▸ hhandles⟩
  · have hlive : ofServer joined.2 1 (fun s => s.broker.handlers.live["handler-1"]?) =
        some (some 0) := by decide +kernel
    have hchannel : ofServer joined.2 1 (fun s => s.broker.handlers.channels[0]?.map fun c =>
        (c.hasReceiver, decide (c.queue.length < s.broker.handlers.capacity))) =
          some (some (true, true)) := by decide +kernel
    rw [hafter] at hlive hchannel
    obtain ⟨c, hc, hpair⟩ := Option.map_eq_some_iff.mp (Option.some.inj hchannel)
    obtain ⟨hheld, hroom⟩ := Prod.mk.inj hpair
    exact ⟨0, c, happlication ▸ Option.some.inj hlive, hc, hheld, of_decide_eq_true hroom⟩
  · have hcounted : ofServer joined.2 1
        (fun s => (DeviceStore.get s.devices oneKey).map (·.totals.received)) = some (.ok 0) := by
      decide +kernel
    rw [hafter, hdevice] at hcounted
    have hnone : device.totals.received = 0 := Except.ok.inj (Option.some.inj hcounted)
    rw [hnone]
    decide
  · rw [hclient]
    decide

/-- A device joins and is not heard: its handler gave up its receiving end without deactivation, the
record of the device was written with a time that does not read back or with a full count of received
frames, or the answer to the uplink comes too late. -/
theorem joined_device_may_not_be_heard :
    let deaf := joinIn atOnce (oneBroker .inMemory [.handler (.drop ⟨0⟩)])
    let unread := joinIn atOnce (oneBroker (.onStorage (.memory .empty)) [.device (.set
      { Device.new oneKey with lastSeen := some ⟨253402300800, 0, by decide, by decide⟩ } [])])
    let full := joinIn atOnce (oneBroker .inMemory [.device (.set
      { Device.new oneKey with totals := ⟨18446744073709551615, 0⟩ } [])])
    let heard := joinIn atOnce (oneBroker .inMemory [])
    let held := some (.ok [Device.activated oneKey oneAddress Server.sessionKey])
    let announced := some ("broker-a:1902", true)
    (deaf.1 = .ok () ∧
      ofServer deaf.2 0 (fun s => DeviceStore.byAddress s.devices oneAddress) = held ∧
      deaf.2.router.connections["broker-a"]?.map Connection.address = some "broker-a:1902" ∧
      deaf.2.directory.entries["broker-a"]?.map (fun a => (a.netAddress, a.handles oneAddress)) =
        announced ∧
      ofServer deaf.2 0 (fun s => s.broker.handlers.isActive "handler-1") = some true ∧
      ofServer deaf.2 0 (fun s => s.broker.handlers.channels.map (·.queue)) = some [[]] ∧
      (deaf.2.uplink atOnce Frames.gateway (Frames.dataUp oneAddress)).1 =
        .error (.notAccepted .uplink)) ∧
    (unread.1 = .ok () ∧
      ofServer unread.2 0 (fun s => DeviceStore.get s.devices oneKey) =
        some (.error (.invalidField "last_seen" "+10000-01-01T00:00:00.000000000Z")) ∧
      ofServer unread.2 0 (fun s => s.broker.handlers.channels.map fun c => (c.hasReceiver, c.queue)) =
        some [(true, [])] ∧
      (unread.2.uplink atOnce Frames.gateway (Frames.dataUp oneAddress)).1 =
        .error (.notAccepted .uplink)) ∧
    (full.1 = .ok () ∧
      ofServer full.2 0 (fun s => (DeviceStore.byAddress s.devices oneAddress).map
        (·.map fun d => (d.key, d.counterUp, d.totals.received))) =
          some (.ok [(oneKey, 0, 18446744073709551615)]) ∧
      ofServer full.2 0 (fun s => s.broker.handlers.channels.map fun c => (c.hasReceiver, c.queue)) =
        some [(true, [])] ∧
      (full.2.uplink atOnce Frames.gateway (Frames.dataUp oneAddress)).1 =
        .error (.notAccepted .uplink)) ∧
    heard.1 = .ok () ∧
    ofServer heard.2 0 (fun s => DeviceStore.byAddress s.devices oneAddress) = held ∧
    (heard.2.uplink atOnce Frames.gateway (Frames.dataUp oneAddress)).1 = .ok () ∧
    (heard.2.uplink (fun _ => 2001) Frames.gateway (Frames.dataUp oneAddress)).1 =
      .error (.notAccepted .uplink) := by
  intro deaf unread full heard held announced
  refine ⟨?_, ?_, ?_, ?_⟩ <;> decide +kernel

end Network

end LorawanRouting
