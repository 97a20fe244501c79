import LorawanRouting.Proofs.Requests

/-!
What a join request comes to: every broker that can be connected is asked once, all with the same
request, and the first join-accept that a stream takes is queued there. Nothing is queued otherwise.
-/

namespace LorawanRouting.Router

variable {κ ω : Type} {r s : Router κ}

theorem settle_some (h : r.SentNothing s) (kind : RequestKind)
    (answers : List (Race.Arrival Downlink)) :
    let result := (settle kind some s answers).1
    let after := (settle kind some s answers).2
    (result = .ok () ↔ ∃ a ∈ answers, r.Delivers a.answer) ∧
    (result = .ok () → ∃ earlier a later, answers = earlier ++ a :: later ∧
      (∀ e ∈ earlier, ¬ r.Delivers e.answer) ∧ r.Delivers a.answer ∧ r.Sent a.answer after) ∧
    (result ≠ .ok () → result = .error (.notAccepted kind) ∧ r.SentNothing after) := by
  have hacceptable : ∀ a : Race.Arrival Downlink, r.Acceptable some a ↔ r.Delivers a.answer := by
    intro a
    simp [Acceptable]
  have hspec := settle_spec h kind some answers
  simp only [hacceptable] at hspec
  exact hspec

theorem activate_eq_raceFor (b : Backhaul κ ω) (w : ω) (request : JoinRequest) {eui : GatewayEui}
    {status : GatewayStatus} {band : Band} {announced : List Announcement}
    (hstatus : (r.gateway eui).status = some status)
    (hband : Band.ofRegion status.region = .ok band) (hall : b.all = .ok announced) :
    let stamped := { request with gateway := { request.gateway with gateway := eui } }
    let activation := stamped.toActivation band
    activate b r w eui request =
      raceFor .activation b.connect (b.activate · activation) some activation
        ((r.countRx eui).forgetDeparted announced) w announced :=
  activate_of_band b w request (bandOf_of_status hstatus hband) hall

/-- One join-accept is queued if any can be, and nothing is queued otherwise. -/
theorem activation_queues_one_join_accept (b : Backhaul κ ω) (r : Router κ) (w : ω)
    (eui : GatewayEui) (request : JoinRequest) {status : GatewayStatus} {band : Band}
    {announced : List Announcement} (hstatus : (r.gateway eui).status = some status)
    (hband : Band.ofRegion status.region = .ok band) (hall : b.all = .ok announced) :
    let stamped := { request with gateway := { request.gateway with gateway := eui } }
    let activation := stamped.toActivation band
    let brokers := reached b.connect r announced
    let peers := (askAll (b.activate · activation) (brokers.map fun e => (e.1.id, e.2)) w).1
    let ready := (connectAll b.connect ((r.countRx eui).forgetDeparted announced) announced).router
    let report := activate b r w eui request
    let noted := activate b.noting r (w, []) eui request
    activation.gateway.gateway = eui ∧ activation.options.map (·.gateway) = [eui, eui] ∧
    noted.mapWorld Prod.fst = report ∧
    noted.world.2 = brokers.map (fun e => .activate e.2 activation) ∧
    report.asked = brokers.map (·.1.id) ∧ report.request = some activation ∧
    ((announced.map Announcement.id).Nodup →
      brokers = announced.filterMap fun a => (client? (b.connect · 0) r a).map (a, ·)) ∧
    (report.result, report.router) =
      settle .activation some ready (Race.arrivals r.requestTimeout peers) ∧
    (Race.arrivals r.requestTimeout peers).Perm (peers.filterMap (·.arrival? r.requestTimeout)) ∧
    ∀ answers,
      let result := (settle .activation some ready answers).1
      let after := (settle .activation some ready answers).2
      (result = .ok () ↔ ∃ a ∈ answers, r.Delivers a.answer) ∧
      (result = .ok () → ∃ earlier a later, answers = earlier ++ a :: later ∧
        (∀ e ∈ earlier, ¬ r.Delivers e.answer) ∧ r.Delivers a.answer ∧ r.Sent a.answer after) ∧
      (result ≠ .ok () → result = .error (.notAccepted .activation) ∧ r.SentNothing after) := by
  intro stamped activation brokers peers ready report noted
  have hreport : report = raceFor .activation b.connect (b.activate · activation) some activation
      ((r.countRx eui).forgetDeparted announced) w announced :=
    activate_eq_raceFor b w request hstatus hband hall
  have hbrokers : reached b.connect ((r.countRx eui).forgetDeparted announced) announced = brokers :=
    reached_congr fun a ha => getElem?_forgetDeparted ha
  have hnoted : noted = report.mapWorld (·, brokers.map fun e => .activate e.2 activation) := by
    have hnoting := activate_eq_raceFor b.noting (w, []) request hstatus hband hall
    rw [hreport, ← hbrokers]
    exact hnoting.trans (raceFor_noting (.activate · activation))
  have hready : r.SentNothing ready :=
    ((sentNothing_countRx r eui).trans (sentNothing_forgetDeparted _ announced)).trans
      (sentNothing_connectAll b.connect _ announced)
  refine ⟨rfl, rfl, ?_, ?_, ?_, ?_, reached_of_nodup, ?_, Race.arrivals_perm _ _,
    fun answers => settle_some hready .activation answers⟩
  · rw [hnoted]
    rfl
  · rw [hnoted]
    rfl
  · rw [hreport, asked_raceFor, hbrokers]
  · rw [hreport]
    rfl
  · rw [hreport, settle_raceFor, hbrokers]
    rfl

theorem activation_queues_second_answer :
    let eui : GatewayEui := default
    let status : GatewayStatus := ⟨"EU_863_870", "", "", 0, 0, 0, 0, 0⟩
    let request : JoinRequest :=
      ⟨[], default, default, ⟨.lora, "SF7BW125", "4/5"⟩, ⟨eui, 0, 868100000, 0, 0⟩⟩
    let announced : List Announcement := [⟨"a", "broker", "a:1", []⟩, ⟨"b", "broker", "b:1", []⟩]
    let accept : Downlink := ⟨[32], some ⟨"rx1", eui, 5000000, 868100000, "SF7BW125", "4/5", 14, 10⟩⟩
    let b : Backhaul String Unit :=
      { all := .ok announced
        discover := fun _ => .error .unavailable
        connect := fun a _ => some a.id
        activate := fun id _ w => (.answers 1 (if id = "a" then ⟨[32], none⟩ else accept), w)
        uplink := fun _ _ w => (.silent, w) }
    let r : Router String := (((new 1000 1).report eui status).subscribe eui).state
    (r.gateway eui).status = some status ∧ Band.ofRegion status.region = .ok Band.table[0] ∧
      b.all = .ok announced ∧ (activate b r () eui request).result = .ok () := by
  intro eui status request announced accept b r
  have hstatus : (r.gateway eui).status = some status := by
    change ((report (new 1000 1) eui status : Router String).gateway eui).status = some status
    rw [report, gateway_changeGateway, if_pos rfl]
    rfl
  have hband : Band.ofRegion status.region = .ok Band.table[0] := rfl
  have hdelivers : r.Delivers accept := by
    refine ⟨_, rfl, 0, ⟨[], true, true⟩, ?_⟩
    simp [r, subscribe, Registry.activate, withDownlinks, report, changeGateway, new, Registry.new]
  have hbrokers : ∀ a, client? (b.connect · 0) r a = some a.id := fun a => rfl
  have htimeout : r.requestTimeout = 1000 := rfl
  obtain ⟨-, -, -, -, -, -, hreached, hsettle, harrived, hraces⟩ :=
    activation_queues_one_join_accept b r () eui request hstatus hband rfl
  refine ⟨hstatus, hband, rfl, ?_⟩
  refine (congrArg Prod.fst hsettle).trans ((hraces _).1.mpr ⟨⟨"b", 1, accept⟩, ?_, hdelivers⟩)
  rw [harrived.mem_iff, hreached (by decide)]
  simp [hbrokers, announced, askAll, b, Race.Peer.arrival?, htimeout]

end LorawanRouting.Router
