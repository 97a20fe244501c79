import LorawanRouting.Proofs.JoinThenUplink
import LorawanRouting.Proofs.Refusals
import LorawanRouting.Proofs.ServerRuns

/-!
Frames that the brokers of a network count. A run of the network gives each broker a run of its own, made
of what it was asked and of what was done at it by hand. What the broker granted and counted in this run
tells the counters in its records; whatever else happens in the network leaves the records alone.
-/

namespace LorawanRouting
open Server (Turn Deed)

def BrokerCall.turn? (number : Nat) : BrokerCall Nat → Option Turn
  | .activate client m => if client = number then some (.activate m) else none
  | .uplink client m => if client = number then some (.uplink m) else none

namespace Router

variable {κ ω : Type}

theorem activate_noting (b : Backhaul κ ω) (r : Router κ) (w : ω) (eui : GatewayEui)
    (request : JoinRequest) :
    (activate b.noting r (w, []) eui request).world.1 = (activate b r w eui request).world := by
  cases hview : joinView b r eui with
  | error e =>
    rw [(activate_of_refused b w request hview).1,
      (activate_of_refused b.noting (w, []) request hview).1]
    rfl
  | ok announced =>
    obtain ⟨band, hband, hall⟩ := (joinView_eq_ok b).mp hview
    have hnoting := activate_of_band b.noting (w, []) request hband hall
    rw [activate_of_band b w request hband hall,
      hnoting.trans (raceFor_noting (.activate · _))]
    rfl

theorem uplink_noting (b : Backhaul κ ω) (r : Router κ) (w : ω) (eui : GatewayEui) (frame : Uplink) :
    (uplink b.noting r (w, []) eui frame).world.1 = (uplink b r w eui frame).world := by
  cases hview : uplinkView b r eui frame with
  | error e =>
    rw [(uplink_of_refused b w frame hview).1, (uplink_of_refused b.noting (w, []) frame hview).1]
    rfl
  | ok announced =>
    obtain ⟨band, address, hband, haddress, hdiscover⟩ := (uplinkView_eq_ok b frame).mp hview
    have hnoting := uplink_of_band b.noting (w, []) frame hband haddress hdiscover
    rw [uplink_of_band b w frame hband haddress hdiscover,
      hnoting.trans (raceFor_noting (.uplink · _))]
    rfl

end Router

namespace Network

section Turns

variable {δ : Type} [DeviceStore δ] {n : Network δ} {delays : Nat → Nat} {eui : GatewayEui}
  {band : Band}

def asked (n : Network δ) : Call δ → List (BrokerCall Nat)
  | .join delays eui request =>
    (n.router.activate (n.backhaul delays).noting (n.servers, []) eui request).world.2
  | .uplink delays eui frame =>
    (n.router.uplink (n.backhaul delays).noting (n.servers, []) eui frame).world.2
  | _ => []

/-- What a call on the network has the broker of a number do. -/
def turns (n : Network δ) (number : Nat) (c : Call δ) : List Turn :=
  match c with
  | .server target c => if target = number then [.call c] else []
  | c => (n.asked c).filterMap (·.turn? number)

def deeds (number : Nat) (n : Network δ) : List (Call δ) → List Deed
  | [] => []
  | c :: cs =>
    (n.servers[number]?.elim [] fun s => s.deeds (n.turns number c)) ++ deeds number (c.run n) cs

theorem deeds_concat (number : Nat) (n : Network δ) (cs : List (Call δ)) (c : Call δ) :
    deeds number n (cs ++ [c]) = deeds number n cs ++
      (cs.foldl Call.run n).servers[number]?.elim []
        fun s => s.deeds ((cs.foldl Call.run n).turns number c) := by
  induction cs generalizing n with
  | nil => simp only [List.nil_append, deeds, List.append_nil, List.foldl_nil]
  | cons c' cs ih => simp only [List.cons_append, deeds, ih, List.append_assoc, List.foldl_cons]

def Noted (servers : List (Server δ)) (w : List (Server δ) × List (BrokerCall Nat)) : Prop :=
  ∀ number : Nat, w.1[number]? =
    servers[number]?.map fun s => s.after (w.2.filterMap (·.turn? number))

theorem noted_nothing (servers : List (Server δ)) : Noted servers (servers, []) := by
  intro number
  simp [Server.after]

theorem Noted.ask {ρ : Type} {f : Server δ → Race.Conduct ρ × Server δ} {servers : List (Server δ)}
    {w : List (Server δ) × List (BrokerCall Nat)} (h : Noted servers w) (call : Nat → BrokerCall Nat)
    (turn : Turn) (client : Nat)
    (hcall : ∀ number, (call client).turn? number = if client = number then some turn else none)
    (hf : ∀ s, (f s).2 = turn.run s) :
    Noted servers (BrokerCall.noting call (askServer f delays) client w).2 := by
  intro number
  simp only [BrokerCall.noting, askServer_eq, List.getElem?_modify, h number, List.filterMap_append,
    List.filterMap_cons, List.filterMap_nil, hcall]
  cases servers[number]? with
  | none => rfl
  | some s =>
    by_cases hclient : client = number
    · simp [hclient, Server.after_concat, hf]
    · simp [hclient]

theorem noted_join (n : Network δ) (delays : Nat → Nat) (eui : GatewayEui) (request : JoinRequest) :
    Noted n.servers ((n.activate delays eui request).2.servers, n.asked (.join delays eui request)) := by
  have hworld := Router.activate_noting (n.backhaul delays) n.router n.servers eui request
  rw [activate, ← hworld]
  change Noted n.servers (n.router.activate (n.backhaul delays).noting (n.servers, []) eui request).world
  cases hview : Router.joinView (n.backhaul delays) n.router eui with
  | error e =>
    rw [(Router.activate_of_refused (n.backhaul delays).noting (n.servers, []) request hview).1]
    exact noted_nothing n.servers
  | ok announced =>
    obtain ⟨band, hband, hall⟩ := (Router.joinView_eq_ok (n.backhaul delays)).mp hview
    rw [Router.activate_of_band (n.backhaul delays).noting (n.servers, []) request hband hall]
    exact Router.askAll_keeps (Q := Noted n.servers)
      (fun client w hw => hw.ask (.activate · (activation eui request band))
        (.activate (activation eui request band)) client (fun _ => rfl) fun _ => rfl)
      _ (noted_nothing n.servers)

theorem noted_uplink (n : Network δ) (delays : Nat → Nat) (eui : GatewayEui) (frame : Uplink) :
    Noted n.servers ((n.uplink delays eui frame).2.servers, n.asked (.uplink delays eui frame)) := by
  have hworld := Router.uplink_noting (n.backhaul delays) n.router n.servers eui frame
  rw [uplink, ← hworld]
  change Noted n.servers (n.router.uplink (n.backhaul delays).noting (n.servers, []) eui frame).world
  cases hview : Router.uplinkView (n.backhaul delays) n.router eui frame with
  | error e =>
    rw [(Router.uplink_of_refused (n.backhaul delays).noting (n.servers, []) frame hview).1]
    exact noted_nothing n.servers
  | ok announced =>
    obtain ⟨band, address, hband, haddress, hdiscover⟩ :=
      (Router.uplinkView_eq_ok (n.backhaul delays) frame).mp hview
    rw [Router.uplink_of_band (n.backhaul delays).noting (n.servers, []) frame hband haddress hdiscover]
    exact Router.askAll_keeps (Q := Noted n.servers)
      (fun client w hw => hw.ask (.uplink · (routed eui frame band))
        (.uplink (routed eui frame band)) client (fun _ => rfl) fun _ => rfl)
      _ (noted_nothing n.servers)

theorem getElem?_servers_run {number : Nat} {s : Server δ} (hs : n.servers[number]? = some s)
    (c : Call δ) : (c.run n).servers[number]? = some (s.after (n.turns number c)) := by
  cases c with
  | gateway c | directory c => exact hs
  | add added =>
    have hlt := (List.getElem?_eq_some_iff.mp hs).1
    exact (List.getElem?_append_left hlt).trans hs
  | server target c =>
    change (n.servers.modify target fun s => c.run s)[number]? = _
    rw [List.getElem?_modify, hs, turns]
    by_cases htarget : target = number <;> simp [htarget, Server.after, Turn.run]
  | join delays eui request => exact (noted_join n delays eui request number).trans (congrArg _ hs)
  | uplink delays eui frame => exact (noted_uplink n delays eui frame number).trans (congrArg _ hs)

theorem exists_add_of_new {number : Nat} {s : Server δ} {c : Call δ} (h : n.servers[number]? = none)
    (hs : (c.run n).servers[number]? = some s) : c = .add s := by
  cases c with
  | gateway c | directory c => exact absurd (h.symm.trans hs) (by simp)
  | add added =>
    change (n.servers ++ [added])[number]? = _ at hs
    rw [List.getElem?_append_right (List.getElem?_eq_none_iff.mp h), List.getElem?_singleton] at hs
    split at hs
    · exact congrArg Call.add (Option.some.inj hs)
    · cases hs
  | server target c =>
    change (n.servers.modify target fun s => c.run s)[number]? = _ at hs
    rw [List.getElem?_modify, h] at hs
    cases hs
  | join delays eui request =>
    have hnone := noted_join n delays eui request number
    rw [h] at hnone
    exact absurd (hnone.symm.trans hs) (by simp)
  | uplink delays eui frame =>
    have hnone := noted_uplink n delays eui frame number
    rw [h] at hnone
    exact absurd (hnone.symm.trans hs) (by simp)

theorem asked_join_of_refused {e : RouterError} (request : JoinRequest)
    (h : Router.joinView (n.backhaul delays) n.router eui = .error e) :
    n.asked (.join delays eui request) = [] :=
  congrArg (·.world.2)
    (Router.activate_of_refused (n.backhaul delays).noting (n.servers, []) request h).1

theorem asked_uplink_of_refused {e : RouterError} {frame : Uplink}
    (h : Router.uplinkView (n.backhaul delays) n.router eui frame = .error e) :
    n.asked (.uplink delays eui frame) = [] :=
  congrArg (·.world.2)
    (Router.uplink_of_refused (n.backhaul delays).noting (n.servers, []) frame h).1

theorem asked_join_of_band (request : JoinRequest)
    (hband : n.router.bandOf eui = .ok band) :
    n.asked (.join delays eui request) =
      (n.brokers n.directory.all).map fun e => .activate e.2 (activation eui request band) := by
  have hnoting := Router.activate_of_band (n.backhaul delays).noting (n.servers, []) request hband rfl
  rw [asked, hnoting.trans (Router.raceFor_noting (.activate · _))]
  exact congrArg (List.map _) (Router.reached_congr fun _ ha => Router.getElem?_forgetDeparted ha)

theorem asked_uplink_of_band {frame : Uplink} {address : DevAddr}
    (hband : n.router.bandOf eui = .ok band) (haddress : frameAddress? frame.payload = some address) :
    n.asked (.uplink delays eui frame) =
      (n.brokers (n.directory.discover address)).map fun e => .uplink e.2 (routed eui frame band) := by
  have hnoting :=
    Router.uplink_of_band (n.backhaul delays).noting (n.servers, []) frame hband haddress rfl
  rw [asked, hnoting.trans (Router.raceFor_noting (.uplink · _))]
  exact congrArg (List.map _) (Router.reached_congr fun _ _ => rfl)

end Turns

def Call.isUplink {δ : Type} : Call δ → Bool
  | .uplink .. => true
  | _ => false

/-- A call that adds only brokers that have done nothing yet, and does nothing to a store by hand. -/
def Call.StartsFresh : Call Devices → Prop
  | .add s => s.Fresh
  | .server _ c => c.SparesDevices
  | _ => True

theorem Call.StartsFresh.storable {c : Call Devices} (h : c.StartsFresh) : c.Storable := by
  cases c with
  | add s => exact ⟨_, h.empty⟩
  | server number c =>
    cases c with
    | register | handler => trivial
    | device c => exact h.elim
  | gateway | directory | join | uplink => trivial

variable {n : Network Devices} {number : Nat}

theorem sparesDevices_of_turn? {call : BrokerCall Nat} {turn : Turn}
    (h : call.turn? number = some turn) : turn.SparesDevices := by
  cases call with
  | activate client m | uplink client m =>
    simp only [BrokerCall.turn?, Option.ite_none_right_eq_some, Option.some.injEq] at h
    exact h.2 ▸ trivial

theorem sparesDevices_of_mem_turns {c : Call Devices} (hc : c.StartsFresh) :
    ∀ turn ∈ n.turns number c, turn.SparesDevices := by
  intro turn hturn
  cases c with
  | server target c =>
    rw [turns] at hturn
    split at hturn
    · exact List.mem_singleton.mp hturn ▸ hc
    · cases hturn
  | gateway | directory | add | join | uplink =>
    obtain ⟨call, -, hcall⟩ := List.mem_filterMap.mp hturn
    exact sparesDevices_of_turn? hcall

theorem length_filterMap_turn? {clients : List (Announcement × Nat)}
    (hclients : (clients.map Prod.snd).Nodup) (call : Nat → BrokerCall Nat) (turn : Turn)
    (hcall : ∀ client, (call client).turn? number = if client = number then some turn else none) :
    ((clients.map fun e => call e.2).filterMap (·.turn? number)).length ≤ 1 := by
  have hcount := List.nodup_iff_count_le_one.mp hclients number
  rw [List.count, List.countP_map] at hcount
  rw [List.filterMap_map, List.length_filterMap_eq_countP]
  refine le_trans (List.countP_mono_left fun e _ he => ?_) hcount
  by_contra hne
  simp_all

theorem Sound.length_turns_le (h : n.Sound) (number : Nat) (c : Call Devices) :
    (n.turns number c).length ≤ 1 := by
  cases c with
  | gateway | directory | add => exact Nat.zero_le 1
  | server target c =>
    rw [turns]
    split <;> simp
  | join delays eui request =>
    change ((n.asked (.join delays eui request)).filterMap (·.turn? number)).length ≤ 1
    cases hview : Router.joinView (n.backhaul delays) n.router eui with
    | error e => simp [asked_join_of_refused request hview]
    | ok announced =>
      obtain ⟨band, hband, -⟩ := (Router.joinView_eq_ok (n.backhaul delays)).mp hview
      rw [asked_join_of_band request hband]
      exact length_filterMap_turn? (h.nodup_numbers h.nodup_all) (.activate · _) _ fun _ => rfl
  | uplink delays eui frame =>
    change ((n.asked (.uplink delays eui frame)).filterMap (·.turn? number)).length ≤ 1
    cases hview : Router.uplinkView (n.backhaul delays) n.router eui frame with
    | error e => simp [asked_uplink_of_refused hview]
    | ok announced =>
      obtain ⟨band, address, hband, haddress, -⟩ :=
        (Router.uplinkView_eq_ok (n.backhaul delays) frame).mp hview
      rw [asked_uplink_of_band hband haddress]
      exact length_filterMap_turn? (h.nodup_numbers (h.nodup_discover address)) (.uplink · _) _
        fun _ => rfl

theorem Sound.countP_turns_le (h : n.Sound) (number : Nat) (c : Call Devices) :
    (n.turns number c).countP Turn.isUplink ≤ if c.isUplink then 1 else 0 := by
  have hlength := h.length_turns_le number c
  cases c with
  | gateway | directory | add => exact Nat.zero_le _
  | server target c =>
    rw [turns]
    split <;> simp [Turn.isUplink]
  | join delays eui request =>
    refine Nat.le_of_eq (List.countP_eq_zero.mpr fun turn hturn => ?_)
    obtain ⟨call, hcall, hasked⟩ := List.mem_filterMap.mp hturn
    cases hview : Router.joinView (n.backhaul delays) n.router eui with
    | error e => simp [asked_join_of_refused request hview] at hcall
    | ok announced =>
      obtain ⟨band, hband, -⟩ := (Router.joinView_eq_ok (n.backhaul delays)).mp hview
      rw [asked_join_of_band request hband] at hcall
      obtain ⟨e, -, rfl⟩ := List.mem_map.mp hcall
      simp only [BrokerCall.turn?, Option.ite_none_right_eq_some, Option.some.injEq] at hasked
      simp [← hasked.2, Turn.isUplink]
  | uplink delays eui frame => exact le_trans List.countP_le_length hlength

/-- Each broker of a network has a run of its own, from where it was added. -/
theorem exists_turns (requestTimeout downlinkBuffer : Nat) {cs : List (Call Devices)}
    (hcs : ∀ c ∈ cs, c.StartsFresh) (number : Nat) :
    let n := after requestTimeout downlinkBuffer cs
    let done := deeds number (new requestTimeout downlinkBuffer) cs
    (n.servers[number]? = none → done = []) ∧
    ∀ s, n.servers[number]? = some s → ∃ start : Server Devices, ∃ turns, start.Fresh ∧
      (∀ turn ∈ turns, turn.SparesDevices) ∧
      turns.countP Turn.isUplink ≤ cs.countP Call.isUplink ∧
      s = start.after turns ∧ done = start.deeds turns := by
  induction cs using List.reverseRecOn with
  | nil => exact ⟨fun _ => rfl, fun s hs => by simp [after, new] at hs⟩
  | append_singleton cs c ih =>
    have hold : ∀ c ∈ cs, c.StartsFresh := fun c hc => hcs c (by simp [hc])
    have hc : c.StartsFresh := hcs c (by simp)
    have hsound := sound_after requestTimeout downlinkBuffer fun c hc => (hold c hc).storable
    obtain ⟨hnone, hsome⟩ := ih hold
    simp only [after, List.foldl_append, List.foldl_cons, List.foldl_nil, deeds_concat,
      List.countP_append, List.countP_singleton] at hnone hsome hsound ⊢
    cases hbefore : (cs.foldl Call.run (new requestTimeout downlinkBuffer)).servers[number]? with
    | none =>
      have hnothing := hnone hbefore
      rw [hnothing]
      refine ⟨fun _ => rfl, fun s hs => ?_⟩
      obtain rfl := exists_add_of_new hbefore hs
      exact ⟨s, [], hc, by simp, Nat.zero_le _, rfl, rfl⟩
    | some before =>
      obtain ⟨start, past, hfresh, hpast, hcount, rfl, hdone⟩ := hsome before hbefore
      have hnext := getElem?_servers_run hbefore c
      rw [hnext, hdone]
      refine ⟨fun hnone => absurd hnone (Option.some_ne_none _), fun s hs => ?_⟩
      obtain rfl := Option.some.inj hs
      refine ⟨start, past ++ _, hfresh, fun turn hturn => ?_, ?_,
        (start.after_append past _).symm, (start.deeds_append past _).symm⟩
      · rcases List.mem_append.mp hturn with hturn | hturn
        · exact hpast turn hturn
        · exact sparesDevices_of_mem_turns hc turn hturn
      · rw [List.countP_append]
        exact Nat.add_le_add hcount (hsound.countP_turns_le number c)

theorem isNotAccepted_of_raced {kind : RequestKind} {result : Except RouterError Unit} {e : RouterError}
    (hraced : result = .ok () ∨ result = .error (.notAccepted kind)) (h : result = .error e) :
    e.isNotAccepted = true := by
  rw [h] at hraced
  rcases hraced with hok | hrefused
  · cases hok
  · obtain rfl := Except.error.inj hrefused
    rfl

theorem servers_of_rejected_join {delays : Nat → Nat} {eui : GatewayEui} {request : JoinRequest}
    {e : RouterError} (h : (n.activate delays eui request).1 = .error e) (he : e.isNotAccepted = false) :
    (n.activate delays eui request).2.servers = n.servers := by
  cases hview : Router.joinView (n.backhaul delays) n.router eui with
  | error cause =>
    exact congrArg (·.world)
      (Router.activate_of_refused (n.backhaul delays) n.servers request hview).1
  | ok announced =>
    obtain ⟨band, hband, -⟩ := (Router.joinView_eq_ok (n.backhaul delays)).mp hview
    have hraced : (n.activate delays eui request).1 = .ok () ∨
        (n.activate delays eui request).1 = .error (.notAccepted .activation) := by
      rw [activate_of_band delays request hband]
      exact Router.result_raceFor _ _ _ (activation eui request band) _ _
    exact absurd (isNotAccepted_of_raced hraced h) (Bool.eq_false_iff.mp he)

theorem servers_of_rejected_uplink {delays : Nat → Nat} {eui : GatewayEui} {frame : Uplink}
    {e : RouterError} (h : (n.uplink delays eui frame).1 = .error e) (he : e.isNotAccepted = false) :
    (n.uplink delays eui frame).2.servers = n.servers := by
  cases hview : Router.uplinkView (n.backhaul delays) n.router eui frame with
  | error cause =>
    exact congrArg (·.world) (Router.uplink_of_refused (n.backhaul delays) n.servers frame hview).1
  | ok announced =>
    obtain ⟨band, address, hband, haddress, -⟩ :=
      (Router.uplinkView_eq_ok (n.backhaul delays) frame).mp hview
    have hraced : (n.uplink delays eui frame).1 = .ok () ∨
        (n.uplink delays eui frame).1 = .error (.notAccepted .uplink) := by
      rw [uplink_of_band delays frame hband haddress]
      exact Router.result_raceFor _ _ _ (routed eui frame band) _ _
    exact absurd (isNotAccepted_of_raced hraced h) (Bool.eq_false_iff.mp he)

/-- What the counters of a broker say after any calls on its network, and which turns change its records. -/
theorem counters_tell_counted_frames (requestTimeout downlinkBuffer : Nat) {cs : List (Call Devices)}
    (hcs : ∀ c ∈ cs, c.StartsFresh) (hfew : cs.countP Call.isUplink < 2 ^ 32) {number : Nat}
    {s : Server Devices} (hs : (after requestTimeout downlinkBuffer cs).servers[number]? = some s) :
    let n := after requestTimeout downlinkBuffer cs
    let done := deeds number (new requestTimeout downlinkBuffer) cs
    (∀ key, (∃ d, DeviceStore.get s.devices key = .ok d) ↔ .granted key ∈ done) ∧
    (∀ key d, DeviceStore.get s.devices key = .ok d →
      d.counterUp.toNat = Deed.countedSinceGrant done key ∧
      d.totals.received.toNat = Deed.countedSinceCreation done key) ∧
    (∀ c, (n.turns number c).length ≤ 1 ∧
      (c.run n).servers[number]? = some (s.after (n.turns number c))) ∧
    (∀ delays eui request e, (n.activate delays eui request).1 = .error e → e.isNotAccepted = false →
      (n.activate delays eui request).2.servers = n.servers) ∧
    (∀ delays eui frame e, (n.uplink delays eui frame).1 = .error e → e.isNotAccepted = false →
      (n.uplink delays eui frame).2.servers = n.servers) ∧
    (∀ request e, ApplicationStore.get s.broker.applications request.app = .error e →
      (s.activate request).2.devices = s.devices) ∧
    (∀ m d, s.holder? m = some d ↔
      ∃ address, frameAddress? m.payload = some address ∧ s.FirstHolder address d) ∧
    (∀ m, s.holder? m = none → (s.uplink m).2.devices = s.devices) ∧
    (∀ m d, s.holder? m = some d → ∀ key, DeviceStore.get (s.uplink m).2.devices key =
      if key = d.key ∧ Server.HasRoom d then
        .ok { d with
          counterUp := d.counterUp + 1
          totals := { d.totals with received := d.totals.received + 1 } }
      else DeviceStore.get s.devices key) ∧
    (cs.countP Call.isUplink + 1 < 2 ^ 32 → ∀ m d, s.holder? m = some d → Server.HasRoom d) := by
  intro n done
  obtain ⟨-, hsome⟩ := exists_turns requestTimeout downlinkBuffer hcs number
  obtain ⟨start, turns, hfresh, hturns, hcount, rfl, hdone⟩ := hsome s hs
  obtain ⟨t, ht⟩ := hfresh.told_after hturns
  rw [← hdone] at ht
  have hsound : n.Sound := sound_after requestTimeout downlinkBuffer fun c hc => (hcs c hc).storable
  have hbound : ∀ key, done.count (.counted key) ≤ cs.countP Call.isUplink := fun key =>
    (hdone ▸ start.count_deeds_le turns key).trans hcount
  refine ⟨ht.exists_get_iff,
    fun key d hd => (ht.accounts_of_get hd).counters ((hbound key).trans_lt hfew),
    fun c => ⟨hsound.length_turns_le number c, getElem?_servers_run hs c⟩,
    fun delays eui request e => servers_of_rejected_join,
    fun delays eui frame e => servers_of_rejected_uplink, fun request e hunknown => ?_,
    fun m d => Server.holder?_eq_some_iff ht.shows, fun m hnone => ?_,
    fun m d hd => Server.get_uplink_of_holder ht.shows hd, fun hroom m d hd => ?_⟩
  · rw [Server.activate_of_unknown hunknown]
  · rw [((start.after turns).uplink_of_holder m).2.2, hnone]
    rfl
  · obtain ⟨address, -, hholder⟩ := (Server.holder?_eq_some_iff ht.shows).mp hd
    exact (ht.accounts_of_get hholder.stored).hasRoom
      (Nat.lt_of_le_of_lt (Nat.succ_le_succ (hbound d.key)) hroom)

/-- A device joins twice. It is heard before and after, once more when its handler has gone, and not at the
address that it had first. -/
theorem counters_tell_counted_frames_of_rejoined :
    let join : Call Devices := .join atOnce Frames.gateway (Frames.joinRequest oneKey.app oneKey.dev)
    let heardAt (lastByte : UInt8) : Call Devices :=
      .uplink atOnce Frames.gateway (Frames.dataUp (Server.grantedAddress 0x26 lastByte.toNat))
    let cs := oneBroker .inMemory [] ++ [join, heardAt 1, join, heardAt 2,
      .server 0 (.handler (.drop ⟨0⟩)), heardAt 2, heardAt 1]
    (∀ c ∈ cs, c.StartsFresh) ∧ cs.countP Call.isUplink < 2 ^ 32 ∧
      ∃ s d, (after 2000 16 cs).servers[0]? = some s ∧ DeviceStore.get s.devices oneKey = .ok d ∧
        d.counterUp.toNat = 2 ∧ d.totals.received.toNat = 3 := by
  intro join heardAt cs
  have hcs : ∀ c ∈ cs, c.StartsFresh := by
    intro c hc
    simp only [cs, oneBroker, broker, List.map_nil, List.append_nil, List.cons_append, List.nil_append,
      List.mem_cons, List.not_mem_nil, or_false] at hc
    rcases hc with rfl | rfl | rfl | rfl | rfl | rfl | rfl | rfl | rfl | rfl | rfl | rfl
    case inr.inr.inl => exact ⟨Devices.shows_inMemory, rfl⟩
    all_goals trivial
  have hfew : cs.countP Call.isUplink < 2 ^ 32 := by decide +kernel
  have hdone : deeds 0 (new 2000 16) cs = [.granted oneKey, .counted oneKey, .granted oneKey,
      .counted oneKey, .counted oneKey] := by decide +kernel
  obtain ⟨s, hs⟩ : ∃ s, (after 2000 16 cs).servers[0]? = some s :=
    Option.isSome_iff_exists.mp (by decide +kernel)
  obtain ⟨hknown, hcounters, -⟩ := counters_tell_counted_frames 2000 16 hcs hfew hs
  rw [hdone] at hknown hcounters
  obtain ⟨d, hd⟩ := (hknown oneKey).mpr (by simp)
  exact ⟨hcs, hfew, s, d, hs, hd, hcounters oneKey d hd⟩

end Network

end LorawanRouting
