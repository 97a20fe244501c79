import LorawanRouting.Network.Basic
import LorawanRouting.Proofs.ConnectionHistory
import LorawanRouting.Proofs.Directory
import LorawanRouting.Proofs.Servers

/-!
Runs of a whole network. Whatever happens, an identity leads to servers of that identity, by the network
and by the connections of the router, and each server keeps a store whose records can be read. So the
brokers that a request reaches are as many servers, each asked once and apart from all others.
-/

namespace LorawanRouting

namespace Router

variable {κ ω ρ : Type} {r : Router κ} {P : String → κ → Prop}

theorem forall_client? {attempt : Announcement → Option κ} {a : Announcement} {client : κ}
    (hold : ∀ {id : String} {c}, r.connections[id]? = some c → P id c.client)
    (hnew : attempt a = some client → P a.id client) (h : client? attempt r a = some client) :
    P a.id client := by
  cases hconnected : r.connected a with
  | true =>
    have hc := getElem?_of_connected attempt hconnected
    rw [h] at hc
    exact hold hc
  | false =>
    rw [client?_of_not_connected hconnected] at h
    exact hnew h

theorem forall_connectAll {connect : Announcement → Nat → Option κ}
    (hold : ∀ {id : String} {c}, r.connections[id]? = some c → P id c.client)
    (hnew : ∀ {a tried client}, connect a tried = some client → P a.id client)
    (as : List Announcement) {id : String} {c : Connection κ}
    (h : (connectAll connect r as).router.connections[id]? = some c) : P id c.client := by
  induction as using List.reverseRecOn generalizing id c with
  | nil => exact hold h
  | append_singleton as a ih =>
    simp only [connectAll_concat, getElem?_connectOne] at h
    split at h
    case isFalse => exact ih h
    case isTrue hid =>
      obtain ⟨client, hclient, rfl⟩ := Option.map_eq_some_iff.mp h
      subst hid
      exact forall_client? ih hnew hclient

theorem getElem?_of_forgetDeparted {as : List Announcement} {id : String} {c : Connection κ}
    (h : (r.forgetDeparted as).connections[id]? = some c) : r.connections[id]? = some c := by
  rw [forgetDeparted, Std.ExtTreeMap.getElem?_filter'] at h
  exact (Option.filter_eq_some_iff.mp h).1

theorem askAll_keeps {Q : ω → Prop} {ask : κ → ω → Race.Conduct ρ × ω}
    (h : ∀ client w, Q w → Q (ask client w).2) (clients : List (String × κ)) {w : ω} (hw : Q w) :
    Q (askAll ask clients w).2 := by
  induction clients generalizing w with
  | nil => exact hw
  | cons e clients ih => exact ih (h e.2 w hw)

end Router

theorem Race.Conduct.later_eq_answers {ρ : Type} {conduct : Race.Conduct ρ} {delay time : Nat}
    {answer : ρ} : conduct.later delay = .answers time answer ↔
      ∃ own, conduct = .answers own answer ∧ own + delay = time := by
  cases conduct <;> simp [Race.Conduct.later, and_comm]

namespace Network

section Asking

variable {δ ρ : Type} {f : Server δ → Race.Conduct ρ × Server δ} {delays : Nat → Nat}

def conduct (f : Server δ → Race.Conduct ρ × Server δ) (delays : Nat → Nat)
    (servers : List (Server δ)) (number : Nat) : Race.Conduct ρ :=
  servers[number]?.elim .silent fun s => (f s).1.later (delays number)

theorem conduct_eq_answers {servers : List (Server δ)} {number time : Nat} {answer : ρ} :
    conduct f delays servers number = .answers time answer ↔
      ∃ s, servers[number]? = some s ∧
        ∃ own, (f s).1 = .answers own answer ∧ own + delays number = time := by
  rw [conduct]
  cases servers[number]? <;> simp [Race.Conduct.later_eq_answers]

theorem askServer_eq (f : Server δ → Race.Conduct ρ × Server δ) (delays : Nat → Nat) (number : Nat)
    (servers : List (Server δ)) : askServer f delays number servers =
      (conduct f delays servers number, servers.modify number fun s => (f s).2) := by
  rw [askServer, conduct, List.modify_eq_set_getElem?]
  cases servers[number]? <;> rfl

theorem askAll_servers {clients : List (String × Nat)} (h : (clients.map Prod.snd).Nodup)
    (servers : List (Server δ)) :
    (Router.askAll (askServer f delays) clients servers).1 =
        clients.map (fun e => ⟨e.1, conduct f delays servers e.2⟩) ∧
      ∀ number, (Router.askAll (askServer f delays) clients servers).2[number]? =
        if number ∈ clients.map Prod.snd then servers[number]?.map fun s => (f s).2
        else servers[number]? := by
  induction clients generalizing servers with
  | nil => exact ⟨rfl, fun number => by simp [Router.askAll]⟩
  | cons e clients ih =>
    obtain ⟨hnew, hrest⟩ := List.nodup_cons.mp h
    obtain ⟨hpeers, hservers⟩ := ih hrest (servers.modify e.2 fun s => (f s).2)
    simp only [Router.askAll, askServer_eq, List.map_cons, List.mem_cons]
    refine ⟨congrArg _ (hpeers.trans (List.map_congr_left fun e' he' => ?_)), fun number => ?_⟩
    · have hne : e.2 ≠ e'.2 := fun heq => hnew (heq ▸ List.mem_map_of_mem he')
      rw [conduct, conduct, List.getElem?_modify_ne _ _ hne]
    · rw [hservers]
      by_cases hnumber : number = e.2
      · subst hnumber
        rw [if_neg hnew, if_pos (Or.inl rfl), List.getElem?_modify_eq]
        rfl
      · rw [List.getElem?_modify_ne _ _ (Ne.symm hnumber)]
        simp only [hnumber, false_or]

theorem map_id_modify {g : Server δ → Server δ} (hg : ∀ s, (g s).id = s.id) (number : Nat)
    (servers : List (Server δ)) : (servers.modify number g).map Server.id = servers.map Server.id := by
  refine List.ext_getElem? fun i => ?_
  rw [List.getElem?_map, List.getElem?_map, List.getElem?_modify]
  by_cases hi : number = i
  · cases servers[i]? <;> simp [hi, hg]
  · simp [hi]

end Asking

/-- What is done at a router, other than the requests of gateways. -/
inductive GatewayCall
  | report (eui : GatewayEui) (status : GatewayStatus)
  | tick (eui : GatewayEui)
  | subscribe (eui : GatewayEui)
  | unsubscribe (eui : GatewayEui)
  | downlink (m : Downlink)
  | receive (receiver : Receiver)
  | drop (receiver : Receiver)

def GatewayCall.call : GatewayCall → RouterCall Nat Unit
  | .report eui status => .report eui status
  | .tick eui => .tick eui
  | .subscribe eui => .subscribe eui
  | .unsubscribe eui => .unsubscribe eui
  | .downlink m => .downlink m
  | .receive receiver => .receive receiver
  | .drop receiver => .drop receiver

inductive ServerCall
  | register (app : AppEui) (handler : String)
  | handler (use : Broker.HandlerUse)
  | device (c : DeviceCall)

def ServerCall.run {δ : Type} [DeviceStore δ] (s : Server δ) : ServerCall → Server δ
  | .register app served => s.register app served
  | .handler use =>
    { s with broker := s.broker.withHandlers (use.call.run s.broker.handlers).2 }
  | .device c => { s with devices := (c.run s.devices).2 }

inductive Call (δ : Type)
  | gateway (c : GatewayCall)
  | directory (c : DirectoryCall)
  | add (s : Server δ)
  | server (number : Nat) (c : ServerCall)
  | join (delays : Nat → Nat) (eui : GatewayEui) (request : JoinRequest)
  | uplink (delays : Nat → Nat) (eui : GatewayEui) (frame : Uplink)

def Call.run {δ : Type} [DeviceStore δ] (n : Network δ) : Call δ → Network δ
  | .gateway c => { n with router := (c.call.run n.router).2 }
  | .directory c => { n with directory := (c.run n.directory).2 }
  | .add s => n.addServer s
  | .server number c => { n with servers := n.servers.modify number fun s => c.run s }
  | .join delays eui request => (n.activate delays eui request).2
  | .uplink delays eui frame => (n.uplink delays eui frame).2

def after {δ : Type} [DeviceStore δ] (requestTimeout downlinkBuffer : Nat) (cs : List (Call δ)) :
    Network δ :=
  cs.foldl Call.run (.new requestTimeout downlinkBuffer)

def ServerCall.Storable : ServerCall → Prop
  | .device c => c.Storable
  | _ => True

/-- A call that brings in no record that cannot be read. -/
def Call.Storable : Call Devices → Prop
  | .add s => s.Readable
  | .server _ c => c.Storable
  | _ => True

def HasServer {δ : Type} (n : Network δ) (id : String) (number : Nat) : Prop :=
  (n.servers.map Server.id)[number]? = some id

structure Sound (n : Network Devices) : Prop where
  reachable : ∀ {id number}, n.reachable[id]? = some number → n.HasServer id number
  connected : ∀ {id c}, n.router.connections[id]? = some c → n.HasServer id c.client
  announced : ∃ cs, n.directory = Directory.after cs
  readable : ∀ s ∈ n.servers, s.Readable

variable {n : Network Devices}

theorem sound_new (requestTimeout downlinkBuffer : Nat) :
    (new requestTimeout downlinkBuffer : Network Devices).Sound where
  reachable h := by simp [new] at h
  connected h := by simp [new, Router.new] at h
  announced := ⟨[], rfl⟩
  readable s hs := by simp [new] at hs

theorem Sound.gateway (h : n.Sound) (c : GatewayCall) : ((Call.gateway c).run n).Sound where
  reachable := h.reachable
  connected {id connection} hc := by
    have hother : c.call.view? n.router = none := by cases c <;> rfl
    have hsame := (Router.connections_of_other hother).2.2
    change (c.call.run n.router).2.connections[id]? = _ at hc
    rw [hsame] at hc
    exact h.connected hc
  announced := h.announced
  readable := h.readable

theorem Sound.directory (h : n.Sound) (c : DirectoryCall) : ((Call.directory c).run n).Sound where
  reachable := h.reachable
  connected := h.connected
  announced := by
    obtain ⟨cs, hcs⟩ := h.announced
    refine ⟨cs ++ [c], ?_⟩
    rw [Directory.after, Runs.run_concat]
    exact congrArg (fun d => (c.run d).2) hcs
  readable := h.readable

theorem Sound.add (h : n.Sound) {s : Server Devices} (hs : s.Readable) :
    ((Call.add s).run n).Sound := by
  have hkept : ∀ {id number}, n.HasServer id number → ((Call.add s).run n).HasServer id number := by
    intro id number hserver
    have hlt := (List.getElem?_eq_some_iff.mp hserver).1
    change ((n.servers ++ [s]).map Server.id)[number]? = _
    rw [List.map_append, List.getElem?_append_left hlt]
    exact hserver
  refine ⟨fun {id number} hreach => ?_, fun hc => hkept (h.connected hc),
    (h.directory (.announce s.announcement)).announced, fun s' hs' => ?_⟩
  · change (n.reachable.insert s.id n.servers.length)[id]? = _ at hreach
    rw [Std.ExtTreeMap.getElem?_insert] at hreach
    split at hreach
    case isFalse => exact hkept (h.reachable hreach)
    case isTrue hid =>
      obtain rfl := Option.some.inj hreach
      obtain rfl := Std.LawfulEqCmp.eq_of_compare hid
      change ((n.servers ++ [s]).map Server.id)[n.servers.length]? = _
      simp
  · rcases List.mem_append.mp hs' with hold | hnew
    · exact h.readable s' hold
    · exact List.mem_singleton.mp hnew ▸ hs

theorem Sound.of_servers (h : n.Sound) {servers : List (Server Devices)}
    (hids : servers.map Server.id = n.servers.map Server.id) (hreadable : ∀ s ∈ servers, s.Readable) :
    Sound { n with servers } where
  reachable hreach := (congrArg (·[_]?) hids).trans (h.reachable hreach)
  connected hc := (congrArg (·[_]?) hids).trans (h.connected hc)
  announced := h.announced
  readable := hreadable

theorem forall_mem_modify {α : Type} {P : α → Prop} {l : List α} {g : α → α} (h : ∀ x ∈ l, P x)
    (hg : ∀ x, P x → P (g x)) (i : Nat) : ∀ x ∈ l.modify i g, P x := by
  intro x hx
  obtain ⟨j, hj⟩ := List.mem_iff_getElem?.mp hx
  rw [List.getElem?_modify] at hj
  obtain ⟨y, hy, rfl⟩ := Option.map_eq_some_iff.mp hj
  have hmem := h y (List.mem_of_getElem? hy)
  by_cases hij : i = j
  · simp only [hij, if_true]
    exact hg y hmem
  · simp only [hij, if_false]
    exact hmem

theorem ServerCall.Storable.readable_run {s : Server Devices} {c : ServerCall} (hc : c.Storable)
    (h : s.Readable) : (c.run s).Readable := by
  cases c with
  | register | handler => exact h
  | device c =>
    obtain ⟨t, ht⟩ := h
    exact ⟨_, (Devices.simulation.run (DeviceCall.Storable.write hc) ht).2⟩

theorem Sound.server (h : n.Sound) (number : Nat) {c : ServerCall} (hc : c.Storable) :
    ((Call.server number c).run n).Sound := by
  have hid : ∀ s : Server Devices, (c.run s).id = s.id := by
    intro s
    cases c <;> rfl
  exact h.of_servers (map_id_modify hid number n.servers)
    (forall_mem_modify h.readable (fun _ => hc.readable_run) number)

def activation (eui : GatewayEui) (request : JoinRequest) (band : Band) : Activation :=
  JoinRequest.toActivation
    { request with gateway := { request.gateway with gateway := eui } } band

def routed (eui : GatewayEui) (frame : Uplink) (band : Band) : RoutedUplink :=
  Uplink.toRouted { frame with gateway := { frame.gateway with gateway := eui } } band

section Request

variable {δ : Type} [DeviceStore δ] {n : Network δ} {eui : GatewayEui} {band : Band}

theorem activate_of_refused (delays : Nat → Nat) (request : JoinRequest) {e : RouterError}
    (h : n.router.bandOf eui = .error e) :
    n.activate delays eui request = (.error e, { n with router := n.router.countRx eui }) := by
  have hview : Router.joinView (n.backhaul delays) n.router eui = .error e := by
    rw [Router.joinView, h]
    rfl
  rw [activate, (Router.activate_of_refused (n.backhaul delays) n.servers request hview).1]
  rfl

theorem activate_of_band (delays : Nat → Nat) (request : JoinRequest)
    (h : n.router.bandOf eui = .ok band) :
    let report := Router.raceFor .activation n.connect
      (askServer (·.activate (activation eui request band)) delays) some
      (activation eui request band)
      ((n.router.countRx eui).forgetDeparted n.directory.all) n.servers n.directory.all
    n.activate delays eui request =
      (report.result, { n with router := report.router, servers := report.world }) := by
  rw [activate, Router.activate_of_band (n.backhaul delays) n.servers request h rfl]
  rfl

theorem uplink_of_band (delays : Nat → Nat) (frame : Uplink) {address : DevAddr}
    (h : n.router.bandOf eui = .ok band) (haddress : frameAddress? frame.payload = some address) :
    let report := Router.raceFor .uplink n.connect
      (askServer (·.uplink (routed eui frame band)) delays) id (routed eui frame band)
      (n.router.countRx eui) n.servers (n.directory.discover address)
    n.uplink delays eui frame =
      (report.result, { n with router := report.router, servers := report.world }) := by
  rw [uplink, Router.uplink_of_band (n.backhaul delays) n.servers frame h haddress rfl]
  rfl

end Request

section Race

variable {ρ μ : Type} {f : Server Devices → Race.Conduct ρ × Server Devices} {delays : Nat → Nat}
  {r : Router Nat}

theorem askAll_ids (hf : ∀ s, (f s).2.id = s.id) (clients : List (String × Nat))
    (servers : List (Server Devices)) :
    (Router.askAll (askServer f delays) clients servers).2.map Server.id =
      servers.map Server.id := by
  refine Router.askAll_keeps (Q := fun w : List (Server Devices) =>
    w.map Server.id = servers.map Server.id)
    (fun number w hw => ?_) clients rfl
  rw [askServer_eq, map_id_modify hf, hw]

theorem askAll_readable (hf : ∀ s, s.Readable → (f s).2.Readable) (clients : List (String × Nat))
    {servers : List (Server Devices)} (h : ∀ s ∈ servers, s.Readable) :
    ∀ s ∈ (Router.askAll (askServer f delays) clients servers).2, s.Readable := by
  refine Router.askAll_keeps (Q := fun w : List (Server Devices) => ∀ s ∈ w, s.Readable)
    (fun number w hw => ?_) clients h
  rw [askServer_eq]
  exact forall_mem_modify hw hf number

/-- A race asks servers and connects to servers, and changes nothing else of a network. -/
theorem Sound.race (h : n.Sound) (hid : ∀ s, (f s).2.id = s.id)
    (hreadable : ∀ s, s.Readable → (f s).2.Readable)
    (hr : ∀ {id c}, r.connections[id]? = some c → n.HasServer id c.client) (kind : RequestKind)
    (downlinkOf : ρ → Option Downlink) (request : μ) (announced : List Announcement) :
    let report := Router.raceFor kind n.connect (askServer f delays) downlinkOf request r n.servers
      announced
    Sound { n with router := report.router, servers := report.world } := by
  intro report
  have hids : report.world.map Server.id = n.servers.map Server.id := askAll_ids hid _ _
  have hservers := h.of_servers hids (askAll_readable hreadable _ h.readable)
  have hconnections : report.router.connections =
      (Router.connectAll n.connect r announced).router.connections :=
    Router.connections_raceFor kind n.connect (askServer f delays) downlinkOf request n.servers
  refine ⟨hservers.reachable, fun {id c} hc => ?_, h.announced, hservers.readable⟩
  rw [hconnections] at hc
  have hserver := Router.forall_connectAll (P := n.HasServer) hr h.reachable announced hc
  exact (congrArg (·[c.client]?) hids).trans hserver

end Race

theorem Sound.join (h : n.Sound) (delays : Nat → Nat) (eui : GatewayEui) (request : JoinRequest) :
    ((Call.join delays eui request).run n).Sound := by
  cases hband : n.router.bandOf eui with
  | error e =>
    rw [Call.run, activate_of_refused delays request hband]
    exact ⟨h.reachable, h.connected, h.announced, h.readable⟩
  | ok band =>
    rw [Call.run, activate_of_band delays request hband]
    exact h.race (r := (n.router.countRx eui).forgetDeparted n.directory.all)
      (fun s => s.id_activate _) (fun s hs => hs.activate _)
      (fun hc => h.connected (Router.getElem?_of_forgetDeparted hc)) .activation some _ _

theorem Sound.uplink (h : n.Sound) (delays : Nat → Nat) (eui : GatewayEui) (frame : Uplink) :
    ((Call.uplink delays eui frame).run n).Sound := by
  rw [Call.run]
  cases hview : Router.uplinkView (n.backhaul delays) n.router eui frame with
  | error e =>
    rw [Network.uplink, (Router.uplink_of_refused (n.backhaul delays) n.servers frame hview).1]
    exact ⟨h.reachable, h.connected, h.announced, h.readable⟩
  | ok announced =>
    obtain ⟨band, address, hband, haddress, hdiscover⟩ :=
      (Router.uplinkView_eq_ok (n.backhaul delays) frame).mp hview
    rw [uplink_of_band delays frame hband haddress]
    exact h.race (r := n.router.countRx eui) (fun s => (s.uplink_frame _).1)
      (fun s hs => hs.uplink _) h.connected .uplink id _ _

theorem requestTimeout_run (n : Network Devices) (c : Call Devices) :
    (c.run n).router.requestTimeout = n.router.requestTimeout := by
  cases c with
  | gateway c =>
    cases c with
    | downlink m =>
      change (n.router.deliver m).2.requestTimeout = _
      rw [Router.deliver_frame]
    | report | tick | subscribe | unsubscribe | receive | drop => rfl
  | directory | add | server => rfl
  | join delays eui request =>
    cases hband : n.router.bandOf eui with
    | error e =>
      rw [Call.run, activate_of_refused delays request hband]
      rfl
    | ok band =>
      rw [Call.run, activate_of_band delays request hband]
      dsimp only
      rw [Router.raceFor_frame]
      rfl
  | uplink delays eui frame =>
    rw [Call.run]
    cases hview : Router.uplinkView (n.backhaul delays) n.router eui frame with
    | error e =>
      rw [Network.uplink, (Router.uplink_of_refused (n.backhaul delays) n.servers frame hview).1]
      rfl
    | ok announced =>
      obtain ⟨band, address, hband, haddress, hdiscover⟩ :=
        (Router.uplinkView_eq_ok (n.backhaul delays) frame).mp hview
      rw [uplink_of_band delays frame hband haddress]
      dsimp only
      rw [Router.raceFor_frame]
      rfl

theorem requestTimeout_after (requestTimeout downlinkBuffer : Nat) (cs : List (Call Devices)) :
    (after requestTimeout downlinkBuffer cs).router.requestTimeout = requestTimeout := by
  induction cs using List.reverseRecOn with
  | nil => rfl
  | append_singleton cs c ih =>
    rw [after, List.foldl_append]
    exact (requestTimeout_run _ c).trans ih

theorem Sound.run (h : n.Sound) {c : Call Devices} (hc : c.Storable) : (c.run n).Sound := by
  cases c with
  | gateway c => exact h.gateway c
  | directory c => exact h.directory c
  | add s => exact h.add hc
  | server number c => exact h.server number hc
  | join delays eui request => exact h.join delays eui request
  | uplink delays eui frame => exact h.uplink delays eui frame

theorem sound_after (requestTimeout downlinkBuffer : Nat) {cs : List (Call Devices)}
    (hcs : ∀ c ∈ cs, c.Storable) : (after requestTimeout downlinkBuffer cs).Sound := by
  induction cs using List.reverseRecOn with
  | nil => exact sound_new requestTimeout downlinkBuffer
  | append_singleton cs c ih =>
    rw [after, List.foldl_append]
    exact (ih fun c hc => hcs c (by simp [hc])).run (hcs c (by simp))

/-- The brokers among some announced ones that can be reached, with the numbers of their servers. -/
def brokers {δ : Type} (n : Network δ) (announced : List Announcement) :
    List (Announcement × Nat) :=
  Router.reached n.connect n.router announced

theorem Sound.hasServer_of_mem_brokers (h : n.Sound) {announced : List Announcement}
    (hids : (announced.map Announcement.id).Nodup) {e : Announcement × Nat}
    (he : e ∈ n.brokers announced) : n.HasServer e.1.id e.2 := by
  obtain ⟨a, number⟩ := e
  have hclient := ((Router.mem_reached_of_nodup hids a number).mp he).2
  exact Router.forall_client? (P := n.HasServer) h.connected h.reachable hclient

theorem Sound.nodup_numbers (h : n.Sound) {announced : List Announcement}
    (hids : (announced.map Announcement.id).Nodup) : ((n.brokers announced).map Prod.snd).Nodup := by
  -- a number tells the identity, and no identity is reached twice
  refine List.Nodup.of_map (fun number => (n.servers.map Server.id)[number]?) ?_
  have hnames : ((n.brokers announced).map Prod.snd).map
      (fun number => (n.servers.map Server.id)[number]?) =
        ((n.brokers announced).map (·.1.id)).map some := by
    rw [List.map_map, List.map_map]
    exact List.map_congr_left fun e he => h.hasServer_of_mem_brokers hids he
  rw [hnames]
  exact (Router.nodup_ids_reached hids).map (Option.some_injective _)

section Race

variable {ρ μ : Type} {delays : Nat → Nat} {announced : List Announcement}

/-- The answers of the brokers that are reached, in the order of their arrival. -/
def answers {δ : Type} (f : Server δ → Race.Conduct ρ × Server δ) (delays : Nat → Nat)
    (n : Network δ) (announced : List Announcement) : List (Race.Arrival ρ) :=
  Race.arrivals n.router.requestTimeout
    (Router.askAll (askServer f delays) ((n.brokers announced).map fun e => (e.1.id, e.2)) n.servers).1

theorem Sound.nodup_clients (h : n.Sound) (hids : (announced.map Announcement.id).Nodup) :
    (((n.brokers announced).map fun e => (e.1.id, e.2)).map Prod.snd).Nodup := by
  rw [List.map_map]
  exact h.nodup_numbers hids

theorem Sound.mem_answers (h : n.Sound) (hids : (announced.map Announcement.id).Nodup)
    {f : Server Devices → Race.Conduct ρ × Server Devices} {a : Race.Arrival ρ} :
    a ∈ answers f delays n announced ↔ ∃ e ∈ n.brokers announced, ∃ s, n.servers[e.2]? = some s ∧
      (∃ own, (f s).1 = .answers own a.answer ∧ own + delays e.2 = a.time) ∧
        a.time ≤ n.router.requestTimeout ∧ a.id = e.1.id := by
  rw [answers, (Race.arrivals_perm _ _).mem_iff, (askAll_servers (h.nodup_clients hids) _).1,
    List.map_map, List.mem_filterMap]
  simp only [List.mem_map, Function.comp_apply, Race.arrival?_eq_some]
  constructor
  · intro ha
    obtain ⟨_, ⟨e, he, rfl⟩, hconduct, htime, hid⟩ := ha
    obtain ⟨s, hs, hasked⟩ := conduct_eq_answers.mp hconduct
    exact ⟨e, he, s, hs, hasked, htime, hid.symm⟩
  · intro ha
    obtain ⟨e, he, s, hs, hasked, htime, hid⟩ := ha
    exact ⟨_, ⟨e, he, rfl⟩, conduct_eq_answers.mpr ⟨s, hs, hasked⟩, htime, hid.symm⟩

/-- What a race among servers leaves behind: the outcome of their answers, the servers that were asked
each after its own turn, and the connections to them. -/
theorem Sound.race_spec (h : n.Sound) (hids : (announced.map Announcement.id).Nodup)
    {f : Server Devices → Race.Conduct ρ × Server Devices} {r : Router Nat}
    (hr : ∀ a ∈ announced, r.connections[a.id]? = n.router.connections[a.id]?)
    (htimeout : r.requestTimeout = n.router.requestTimeout) (kind : RequestKind)
    (downlinkOf : ρ → Option Downlink) (request : μ) :
    let report := Router.raceFor kind n.connect (askServer f delays) downlinkOf request r n.servers
      announced
    let outcome := Router.settle kind downlinkOf
      (Router.connectAll n.connect r announced).router (answers f delays n announced)
    report.result = outcome.1 ∧ report.router = outcome.2 ∧
    (∀ e ∈ n.brokers announced, ∀ s, n.servers[e.2]? = some s → report.world[e.2]? = some (f s).2) ∧
    ∀ e ∈ n.brokers announced, report.router.connections[e.1.id]? = some ⟨e.1.netAddress, e.2⟩ := by
  intro report outcome
  have hbrokers : Router.reached n.connect r announced = n.brokers announced :=
    Router.reached_congr hr
  have hsettle : (report.result, report.router) = outcome := by
    refine Router.settle_raceFor.trans ?_
    rw [hbrokers, htimeout]
    rfl
  refine ⟨congrArg Prod.fst hsettle, congrArg Prod.snd hsettle, fun e he s hs => ?_,
    fun e he => ?_⟩
  · have hworld : report.world = (Router.askAll (askServer f delays)
        ((n.brokers announced).map fun e => (e.1.id, e.2)) n.servers).2 := by
      rw [← hbrokers, ← Router.clients_connectAll]
      rfl
    have hmem : e.2 ∈ ((n.brokers announced).map fun e => (e.1.id, e.2)).map Prod.snd := by
      rw [List.map_map]
      exact List.mem_map_of_mem he
    rw [hworld, (askAll_servers (h.nodup_clients hids) _).2, if_pos hmem, hs]
    rfl
  · obtain ⟨a, number⟩ := e
    obtain ⟨ha, hclient⟩ := (Router.mem_reached_of_nodup hids a number).mp he
    have hconnections : report.router.connections =
        (Router.connectAll n.connect r announced).router.connections :=
      Router.connections_raceFor kind n.connect (askServer f delays) downlinkOf request n.servers
    rw [hconnections, Router.getElem?_connectAll_of_mem hids ha, Router.client?_congr (hr a ha),
      hclient]
    rfl

end Race

variable {eui : GatewayEui} {band : Band}

theorem Sound.nodup_all (h : n.Sound) : (n.directory.all.map Announcement.id).Nodup := by
  obtain ⟨cs, hcs⟩ := h.announced
  exact hcs ▸ (Directory.ascending_all_after cs).nodup_map

theorem Sound.nodup_discover (h : n.Sound) (address : DevAddr) :
    ((n.directory.discover address).map Announcement.id).Nodup := by
  obtain ⟨cs, hcs⟩ := h.announced
  exact hcs ▸ Directory.nodup_discover_after cs address

/-- The router with the connections that a join request needs. -/
def readyForJoin {δ : Type} (n : Network δ) (eui : GatewayEui) : Router Nat :=
  (Router.connectAll n.connect ((n.router.countRx eui).forgetDeparted n.directory.all)
    n.directory.all).router

def readyForUplink {δ : Type} (n : Network δ) (eui : GatewayEui) (address : DevAddr) : Router Nat :=
  (Router.connectAll n.connect (n.router.countRx eui) (n.directory.discover address)).router

theorem Sound.join_spec (h : n.Sound) (delays : Nat → Nat) (request : JoinRequest)
    (hband : n.router.bandOf eui = .ok band) :
    let asked := fun s : Server Devices => s.activate (activation eui request band)
    let reached := n.brokers n.directory.all
    let outcome := Router.settle .activation some (n.readyForJoin eui)
      (answers asked delays n n.directory.all)
    let joined := n.activate delays eui request
    joined.1 = outcome.1 ∧ joined.2.router = outcome.2 ∧ joined.2.directory = n.directory ∧
    (∀ e ∈ reached, ∀ s, n.servers[e.2]? = some s → joined.2.servers[e.2]? = some (asked s).2) ∧
    ∀ e ∈ reached, joined.2.router.connections[e.1.id]? = some ⟨e.1.netAddress, e.2⟩ := by
  intro asked reached outcome joined
  have hjoined : joined = _ := activate_of_band delays request hband
  obtain ⟨hresult, hrouter, hservers, hconnections⟩ := h.race_spec h.nodup_all (f := asked)
    (r := (n.router.countRx eui).forgetDeparted n.directory.all)
    (fun _ ha => Router.getElem?_forgetDeparted ha) rfl .activation some
    (activation eui request band)
  rw [hjoined]
  exact ⟨hresult, hrouter, rfl, hservers, hconnections⟩

theorem Sound.uplink_spec (h : n.Sound) (delays : Nat → Nat) (frame : Uplink) {address : DevAddr}
    (hband : n.router.bandOf eui = .ok band)
    (haddress : frameAddress? frame.payload = some address) :
    let asked := fun s : Server Devices => s.uplink (routed eui frame band)
    let reached := n.brokers (n.directory.discover address)
    let outcome := Router.settle .uplink id (n.readyForUplink eui address)
      (answers asked delays n (n.directory.discover address))
    let heard := n.uplink delays eui frame
    heard.1 = outcome.1 ∧ heard.2.router = outcome.2 ∧ heard.2.directory = n.directory ∧
    (∀ e ∈ reached, ∀ s, n.servers[e.2]? = some s → heard.2.servers[e.2]? = some (asked s).2) ∧
    ∀ e ∈ reached, heard.2.router.connections[e.1.id]? = some ⟨e.1.netAddress, e.2⟩ := by
  intro asked reached outcome heard
  have hheard : heard = _ := uplink_of_band delays frame hband haddress
  obtain ⟨hresult, hrouter, hservers, hconnections⟩ := h.race_spec (h.nodup_discover address)
    (f := asked) (r := n.router.countRx eui) (fun _ _ => rfl) rfl .uplink id
    (routed eui frame band)
  rw [hheard]
  exact ⟨hresult, hrouter, rfl, hservers, hconnections⟩

end Network

end LorawanRouting
