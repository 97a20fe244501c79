import LorawanRouting.Proofs.Directory
import LorawanRouting.Proofs.Requests

/-!
What an uplink comes to. The brokers that are responsible for its address and can be connected are
asked once each, all for the same message; the first answer that carries no downlink or one that a
stream takes is accepted, and no other downlink is queued.
-/

namespace LorawanRouting.Router

variable {κ ω : Type} {r : Router κ}

theorem uplink_eq_raceFor (b : Backhaul κ ω) (w : ω) (frame : Uplink) {eui : GatewayEui}
    {status : GatewayStatus} {band : Band} {address : DevAddr} {announced : List Announcement}
    (hstatus : (r.gateway eui).status = some status)
    (hband : Band.ofRegion status.region = .ok band)
    (haddress : frameAddress? frame.payload = some address)
    (hdiscover : b.discover address = .ok announced) :
    let stamped := { frame with gateway := { frame.gateway with gateway := eui } }
    let routed := stamped.toRouted band
    uplink b r w eui frame =
      raceFor .uplink b.connect (b.uplink · routed) id routed (r.countRx eui) w announced :=
  uplink_of_band b w frame (bandOf_of_status hstatus hband) haddress hdiscover

theorem settle_id {s : Router κ} (h : r.SentNothing s) (kind : RequestKind)
    (answers : List (Race.Arrival (Option Downlink))) :
    let result := (settle kind id s answers).1
    let after := (settle kind id s answers).2
    (result = .ok () ↔ ∃ a ∈ answers, a.answer = none ∨ ∃ m, a.answer = some m ∧ r.Delivers m) ∧
    (result = .ok () → ∃ earlier a later, answers = earlier ++ a :: later ∧
      (∀ e ∈ earlier, ∃ m, e.answer = some m ∧ ¬ r.Delivers m) ∧
      (a.answer = none ∧ r.SentNothing after ∨
        ∃ m, a.answer = some m ∧ r.Delivers m ∧ r.Sent m after)) ∧
    (result ≠ .ok () → result = .error (.notAccepted kind) ∧ r.SentNothing after) := by
  intro result after
  have hacceptable : ∀ a : Race.Arrival (Option Downlink), r.Acceptable id a ↔
      a.answer = none ∨ ∃ m, a.answer = some m ∧ r.Delivers m := by
    intro a
    cases hm : a.answer <;> simp [Acceptable, hm]
  obtain ⟨haccepted, hfirst, hrefused⟩ := settle_spec h kind id answers
  simp only [hacceptable] at haccepted
  refine ⟨haccepted, fun hok => ?_, hrefused⟩
  obtain ⟨earlier, a, later, hsplit, hearlier, ha, hsent⟩ := hfirst hok
  refine ⟨earlier, a, later, hsplit, fun e he => carried_of_not_acceptable (hearlier e he), ?_⟩
  cases hm : a.answer with
  | none =>
    rw [id, hm] at hsent
    exact Or.inl ⟨rfl, hsent⟩
  | some m =>
    rw [id, hm] at hsent
    exact Or.inr ⟨m, rfl, ha m hm, hsent⟩

/-- The brokers that an uplink reaches, and what their answers come to. -/
theorem uplink_reaches_responsible_brokers (calls : List DirectoryCall) (b : Backhaul κ ω)
    (r : Router κ) (w : ω) (eui : GatewayEui) (frame : Uplink) {status : GatewayStatus} {band : Band}
    (hstatus : (r.gateway eui).status = some status)
    (hband : Band.ofRegion status.region = .ok band) (hlength : 5 ≤ frame.payload.length)
    (hdirectory : b.discover = fun address => .ok ((Directory.after calls).discover address)) :
    let stamped := { frame with gateway := { frame.gateway with gateway := eui } }
    let routed := stamped.toRouted band
    let report := uplink b r w eui frame
    let noted := uplink b.noting r (w, []) eui frame
    ∃ (address : DevAddr) (brokers : List (Announcement × κ)),
      frameAddress? frame.payload = some address ∧
      address.bytes = ((frame.payload.drop 1).take 4).reverse ∧
      (∀ a client, (a, client) ∈ brokers ↔
        Directory.Responsible calls address a ∧ client? (b.connect · 0) r a = some client) ∧
      noted.mapWorld Prod.fst = report ∧
      noted.world.2 = brokers.map (fun e => .uplink e.2 routed) ∧
      report.asked = brokers.map (·.1.id) ∧ report.asked.Nodup ∧ report.request = some routed ∧
      (∀ a ∈ report.attempts, Directory.Responsible calls address a ∧ r.connected a = false) ∧
      let announced := (Directory.after calls).discover address
      let ready := (connectAll b.connect (r.countRx eui) announced).router
      let peers := (askAll (b.uplink · routed) (brokers.map fun e => (e.1.id, e.2)) w).1
      (report.result, report.router) =
        settle .uplink id ready (Race.arrivals r.requestTimeout peers) ∧
      (Race.arrivals r.requestTimeout peers).Perm (peers.filterMap (·.arrival? r.requestTimeout)) ∧
      ∀ answers,
        let result := (settle .uplink id ready answers).1
        let after := (settle .uplink id ready answers).2
        (result = .ok () ↔
          ∃ a ∈ answers, a.answer = none ∨ ∃ m, a.answer = some m ∧ r.Delivers m) ∧
        (result = .ok () → ∃ earlier a later, answers = earlier ++ a :: later ∧
          (∀ e ∈ earlier, ∃ m, e.answer = some m ∧ ¬ r.Delivers m) ∧
          (a.answer = none ∧ r.SentNothing after ∨
            ∃ m, a.answer = some m ∧ r.Delivers m ∧ r.Sent m after)) ∧
        (result ≠ .ok () → result = .error (.notAccepted .uplink) ∧ r.SentNothing after) := by
  intro stamped routed report noted
  obtain ⟨address, haddress, hbytes⟩ := AddressRange.frameAddress?_of_length hlength
  have hdiscover : b.discover address = .ok ((Directory.after calls).discover address) :=
    congrFun hdirectory address
  have hids := Directory.nodup_discover_after calls address
  generalize hannounced : (Directory.after calls).discover address = announced at hdiscover hids
  have hresponsible : ∀ a, a ∈ announced ↔ Directory.Responsible calls address a := by
    intro a
    rw [← hannounced]
    exact Directory.mem_discover_after
  have hreport : report = raceFor .uplink b.connect (b.uplink · routed) id routed (r.countRx eui) w
      announced := uplink_eq_raceFor b w frame hstatus hband haddress hdiscover
  -- counting the frame changes no connection
  have hbrokers : reached b.connect (r.countRx eui) announced = reached b.connect r announced :=
    reached_congr fun _ _ => rfl
  have hnoted : noted = report.mapWorld
      (·, (reached b.connect r announced).map fun e => .uplink e.2 routed) := by
    have hnoting := uplink_eq_raceFor b.noting (w, []) frame hstatus hband haddress hdiscover
    rw [hreport, ← hbrokers]
    exact hnoting.trans (raceFor_noting (.uplink · routed))
  have hasked : report.asked = (reached b.connect r announced).map (·.1.id) := by
    rw [hreport, asked_raceFor, hbrokers]
  have hattempts : report.attempts = announced.filter fun a => !r.connected a := by
    rw [hreport, attempts_raceFor, unconnected_of_nodup hids]
    rfl
  have hready : r.SentNothing (connectAll b.connect (r.countRx eui) announced).router :=
    (sentNothing_countRx r eui).trans (sentNothing_connectAll b.connect _ announced)
  refine ⟨address, reached b.connect r announced, haddress, hbytes, fun a client => ?_, ?_, ?_, hasked,
    ?_, ?_, fun a ha => ?_, ?_, Race.arrivals_perm _ _, fun answers => ?_⟩
  · rw [mem_reached_of_nodup hids, hresponsible]
  · rw [hnoted]
    rfl
  · rw [hnoted]
    rfl
  · rw [hasked]
    exact nodup_ids_reached hids
  · rw [hreport]
    rfl
  · rw [hattempts, List.mem_filter, hresponsible, Bool.not_eq_true'] at ha
    exact ha
  · rw [hannounced, hreport, settle_raceFor, hbrokers]
    rfl
  · rw [hannounced]
    exact settle_id hready .uplink answers

theorem uplink_reaches_first_of_two_brokers :
    let eui : GatewayEui := default
    let status : GatewayStatus := ⟨"EU_863_870", "", "", 0, 0, 0, 0, 0⟩
    let frame : Uplink :=
      ⟨[64, 1, 0, 0, 1], ⟨.lora, "SF7BW125", "4/5"⟩, ⟨eui, 0, 868100000, 0, 0⟩⟩
    let calls : List DirectoryCall :=
      [.announce ⟨"a", "broker", "a:1", [.of ⟨[1, 0, 0, 0], rfl⟩ 8]⟩,
        .announce ⟨"b", "broker", "b:1", [.of ⟨[2, 0, 0, 0], rfl⟩ 8]⟩]
    let b : Backhaul String Unit :=
      { all := .error .unavailable
        discover := fun address => .ok ((Directory.after calls).discover address)
        connect := fun a _ => some a.id
        activate := fun _ _ w => (.silent, w)
        uplink := fun _ _ w => (.answers 1 none, w) }
    let r : Router String := (new 1000 1).report eui status
    (r.gateway eui).status = some status ∧ Band.ofRegion status.region = .ok Band.table[0] ∧
      5 ≤ frame.payload.length ∧
      b.discover = (fun address => .ok ((Directory.after calls).discover address)) ∧
      "a" ∈ (uplink b r () eui frame).asked ∧ "b" ∉ (uplink b r () eui frame).asked := by
  intro eui status frame calls b r
  have hstatus : (r.gateway eui).status = some status := by
    change ((report (new 1000 1) eui status : Router String).gateway eui).status = some status
    rw [report, gateway_changeGateway, if_pos rfl]
    rfl
  have hband : Band.ofRegion status.region = .ok Band.table[0] := rfl
  obtain ⟨address, brokers, -, hbytes, hbrokers, -, -, hasked, -⟩ :=
    uplink_reaches_responsible_brokers calls b r () eui frame hstatus hband (by decide) rfl
  have hbit : ∀ i, AddressRange.bit address i = AddressRange.bit ⟨[1, 0, 0, 1], rfl⟩ i := by
    intro i
    rw [AddressRange.bit, hbytes]
    rfl
  refine ⟨hstatus, hband, by decide, rfl, ?_, ?_⟩
  · rw [hasked, List.mem_map]
    refine ⟨(⟨"a", "broker", "a:1", [.of ⟨[1, 0, 0, 0], rfl⟩ 8]⟩, "a"), ?_, rfl⟩
    refine (hbrokers _ _).mpr ⟨⟨rfl, _, List.mem_singleton_self _, ?_⟩, rfl⟩
    simp only [hbit]
    decide
  · intro hmem
    rw [hasked, List.mem_map] at hmem
    obtain ⟨⟨a, client⟩, hmem, hid⟩ := hmem
    obtain ⟨⟨hannounced, hrange⟩, -⟩ := (hbrokers a client).mp hmem
    rw [show a.id = "b" from hid] at hannounced
    obtain rfl := Option.some.inj hannounced
    obtain ⟨range, hrange, hbits⟩ := hrange
    obtain rfl := List.mem_singleton.mp hrange
    have hdiffer := hbits 6 (by decide)
    rw [hbit] at hdiffer
    exact absurd hdiffer (by decide)

end LorawanRouting.Router
