import LorawanRouting.Proofs.AddressRange
import LorawanRouting.Proofs.Traffic

/-!
Requests that are turned away before their race. The reasons are looked at in a fixed order, each of
them is told by its own error, and whoever is turned away has had its frame counted and nothing else:
no broker was connected or asked, and no stream, no connection and no other count has changed.
-/

namespace LorawanRouting

variable {κ ω μ : Type}

namespace Band

def regions : List String := table.map Band.region

theorem ofRegion_eq (name : String) :
    (∃ band, ofRegion name = .ok band) ∧ name ∈ regions ∨
      ofRegion name = .error (.unknownRegion name) ∧ name ∉ regions := by
  rw [ofRegion, regions, List.mem_map]
  cases hfound : table.find? (·.region = name) with
  | some band =>
    have hname : band.region = name := by simpa using List.find?_some hfound
    exact .inl ⟨⟨band, rfl⟩, band, List.mem_of_find?_eq_some hfound, hname⟩
  | none =>
    have hother := List.find?_eq_none.mp hfound
    refine .inr ⟨rfl, fun hknown => ?_⟩
    obtain ⟨band, hband, hname⟩ := hknown
    exact hother band hband (decide_eq_true hname)

end Band

/-- A gateway that reported a region with a band. -/
def Gateway.HasBand (g : Gateway) : Prop := ∃ status, g.status = some status ∧ status.region ∈ Band.regions

/-- What a request comes to, by the gateway, the frame and what the directory answers, if asked. -/
structure Verdict (kind : RequestKind) (g : Gateway) (short : Prop)
    (lookup : Option (Except DirectoryError (List Announcement))) (result : Except RouterError Unit) :
    Prop where
  gatewayStatus : ∀ cause, result = .error (.gatewayStatus cause) ↔
    g.status = none ∧ cause = .statusUnavailable g.eui
  band : ∀ cause, result = .error (.band cause) ↔ ∃ status, g.status = some status ∧
    status.region ∉ Band.regions ∧ cause = .unknownRegion status.region
  shortFrame : result = .error .shortFrame ↔ g.HasBand ∧ short
  discovery : ∀ cause, result = .error (.discovery cause) ↔
    g.HasBand ∧ ¬ short ∧ lookup = some (.error cause)
  raced : result = .ok () ∨ result = .error (.notAccepted kind) ↔
    g.HasBand ∧ ¬ short ∧ ∃ announced, lookup = some (.ok announced)

/-- The report of a request that did nothing but count its frame. -/
structure Report.Untouched (report : Report κ ω μ) (r : Router κ) (eui : GatewayEui) (w : ω) :
    Prop where
  attempts : report.attempts = []
  asked : report.asked = []
  world : report.world = w
  connections : report.router.connections = r.connections
  downlinks : report.router.downlinks = r.downlinks
  others : ∀ g, g ≠ eui → report.router.gateways[g]? = r.gateways[g]?
  counted : report.router.gateways[eui]? = some ((r.gateway eui).count Utilization.addRx)

namespace Router

variable {r : Router κ} {eui : GatewayEui} {kind : RequestKind} {short : Prop}
  {lookup : Option (Except DirectoryError (List Announcement))} {result : Except RouterError Unit}

/-- The announcements that a request goes by if it gets that far; a short frame has nothing to look up. -/
def viewOf (r : Router κ) (eui : GatewayEui)
    (lookup : Option (Except DirectoryError (List Announcement))) :
    Except RouterError (List Announcement) :=
  (r.bandOf eui).bind fun _ =>
    match lookup with
    | none => .error .shortFrame
    | some found => found.mapError .discovery

theorem uplinkView_eq_viewOf (b : Backhaul κ ω) (r : Router κ) (eui : GatewayEui) (frame : Uplink) :
    uplinkView b r eui frame = viewOf r eui ((frameAddress? frame.payload).map b.discover) := by
  rw [uplinkView]
  cases frameAddress? frame.payload <;> rfl

theorem viewOf_cases (r : Router κ) (eui : GatewayEui)
    (lookup : Option (Except DirectoryError (List Announcement))) :
    let g := r.gateway eui
    (g.status = none ∧
      viewOf r eui lookup = .error (.gatewayStatus (.statusUnavailable g.eui))) ∨
    (∃ status, g.status = some status ∧ status.region ∉ Band.regions ∧
      viewOf r eui lookup = .error (.band (.unknownRegion status.region))) ∨
    (∃ status, g.status = some status ∧ status.region ∈ Band.regions ∧
      viewOf r eui lookup = match lookup with
        | none => .error .shortFrame
        | some found => found.mapError .discovery) := by
  simp only [viewOf, bandOf, Gateway.lastStatus]
  cases (r.gateway eui).status with
  | none => exact .inl ⟨rfl, rfl⟩
  | some status =>
    dsimp only
    rcases Band.ofRegion_eq status.region with ⟨⟨band, hband⟩, hknown⟩ | ⟨hband, hunknown⟩
    · rw [hband]
      exact .inr (.inr ⟨status, rfl, hknown, rfl⟩)
    · rw [hband]
      exact .inr (.inl ⟨status, rfl, hunknown, rfl⟩)

theorem verdict_of_view (hshort : short ↔ lookup = none)
    (hrefused : ∀ e, viewOf r eui lookup = .error e → result = .error e)
    (hraced : ∀ announced, viewOf r eui lookup = .ok announced →
      result = .ok () ∨ result = .error (.notAccepted kind)) :
    Verdict kind (r.gateway eui) short lookup result := by
  rcases viewOf_cases r eui lookup with ⟨hstatus, hview⟩ | ⟨status, hstatus, hunknown, hview⟩ |
    ⟨status, hstatus, hknown, hview⟩
  · rw [hrefused _ hview]
    constructor <;> simp [Gateway.HasBand, hstatus, eq_comm]
  · rw [hrefused _ hview]
    constructor <;> simp [Gateway.HasBand, hstatus, hunknown, eq_comm]
  · have hband : (r.gateway eui).HasBand := ⟨status, hstatus, hknown⟩
    cases lookup with
    | none =>
      rw [hrefused _ hview]
      constructor <;> simp [hshort, hstatus, hband, hknown]
    | some found =>
      cases found with
      | error cause =>
        rw [hrefused _ hview]
        constructor <;> simp [hshort, hstatus, hband, hknown]
      | ok announced =>
        rcases hraced _ hview with h | h <;> rw [h] <;>
          constructor <;> simp [hshort, hstatus, hband, hknown]

theorem result_raceFor {ρ : Type} (connect : Announcement → Nat → Option κ)
    (ask : κ → ω → Race.Conduct ρ × ω) (downlinkOf : ρ → Option Downlink) (request : μ) (w : ω)
    (announced : List Announcement) :
    let result := (raceFor kind connect ask downlinkOf request r w announced).result
    result = .ok () ∨ result = .error (.notAccepted kind) := by
  intro result
  have hsettled : (result, (raceFor kind connect ask downlinkOf request r w announced).router) =
      settle kind downlinkOf _ _ := settle_raceFor
  have hresult : result = (settle kind downlinkOf _ _).1 := congrArg Prod.fst hsettled
  rw [hresult]
  rcases unacceptable_or_first downlinkOf (connectAll connect r announced).router _ with
    hnone | ⟨earlier, a, later, hsplit, hearlier, ha⟩
  · exact .inr (congrArg Prod.fst (settle_of_unacceptable kind hnone))
  · rw [hsplit]
    exact .inl (congrArg Prod.fst (settle_of_first kind hearlier ha))

theorem verdict_activate (b : Backhaul κ ω) (r : Router κ) (w : ω) (eui : GatewayEui)
    (request : JoinRequest) :
    Verdict .activation (r.gateway eui) False (some b.all) (activate b r w eui request).result := by
  refine verdict_of_view (by simp) (fun e hview => ?_) (fun announced hview => ?_)
  · rw [(activate_of_refused b w request hview).1]
    rfl
  · obtain ⟨band, hband, hall⟩ := (joinView_eq_ok b).mp hview
    rw [activate_of_band b w request hband hall]
    exact result_raceFor _ _ _ _ _ _

theorem verdict_uplink (b : Backhaul κ ω) (r : Router κ) (w : ω) (eui : GatewayEui) (frame : Uplink) :
    Verdict .uplink (r.gateway eui) (frame.payload.length < 5)
      ((frameAddress? frame.payload).map b.discover) (uplink b r w eui frame).result := by
  refine verdict_of_view ?_ (fun e hview => ?_) (fun announced hview => ?_)
  · rw [Option.map_eq_none_iff, AddressRange.frameAddress?_eq_none]
  · rw [← uplinkView_eq_viewOf] at hview
    rw [(uplink_of_refused b w frame hview).1]
    rfl
  · rw [← uplinkView_eq_viewOf] at hview
    obtain ⟨band, address, hband, haddress, hdiscover⟩ := (uplinkView_eq_ok b frame).mp hview
    rw [uplink_of_band b w frame hband haddress hdiscover]
    exact result_raceFor _ _ _ _ _ _

theorem untouched_failed (e : RouterError) (r : Router κ) (eui : GatewayEui) (w : ω) :
    (Report.failed e (r.countRx eui) w : Report κ ω μ).Untouched r eui w where
  attempts := rfl
  asked := rfl
  world := rfl
  connections := rfl
  downlinks := rfl
  others g hg := by
    change (r.gateways.insert eui _)[g]? = _
    rw [Std.ExtTreeMap.getElem?_insert, if_neg (by simpa using Ne.symm hg)]
  counted := Std.ExtTreeMap.getElem?_insert_self

theorem status_after (requestTimeout downlinkBuffer : Nat) (cs : List (RouterCall κ ω))
    (g : GatewayEui) :
    (((new requestTimeout downlinkBuffer : Router κ).after cs).gateway g).status =
        cs.reverse.findSome? (·.reported? g) ∧
      (((new requestTimeout downlinkBuffer : Router κ).after cs).gateway g).eui = g := by
  induction cs using List.reverseRecOn with
  | nil => simp [after, Runs.run, new, gateway, Gateway.new]
  | append_singleton cs c ih =>
    obtain ⟨hstatus, heui⟩ := ih
    obtain ⟨h, hf⟩ := follows_after requestTimeout downlinkBuffer cs
    rw [after_concat, gateway_run hf, List.reverse_append]
    refine ⟨?_, heui⟩
    simp only [RouterCall.changed, hstatus, List.reverse_singleton, List.singleton_append,
      List.findSome?_cons]
    cases c.reported? g <;> rfl

/-- A request fails before its race for the first reason there is, and then touches nobody. -/
theorem early_failures_touch_nobody (b : Backhaul κ ω) (r : Router κ) (w : ω) (eui : GatewayEui) :
    (∀ request : JoinRequest,
      let report := activate b r w eui request
      let noted := activate b.noting r (w, []) eui request
      Verdict .activation (r.gateway eui) False (some b.all) report.result ∧
      (report.result = .ok () ∨ report.result = .error (.notAccepted .activation) ∨
        report.Untouched r eui w ∧ noted.Untouched r eui (w, []))) ∧
    (∀ frame : Uplink,
      let report := uplink b r w eui frame
      let noted := uplink b.noting r (w, []) eui frame
      Verdict .uplink (r.gateway eui) (frame.payload.length < 5)
        ((frameAddress? frame.payload).map b.discover) report.result ∧
      (report.result = .ok () ∨ report.result = .error (.notAccepted .uplink) ∨
        report.Untouched r eui w ∧ noted.Untouched r eui (w, []))) ∧
    ∀ (requestTimeout downlinkBuffer : Nat) (cs : List (RouterCall κ ω)),
      let g := ((new requestTimeout downlinkBuffer : Router κ).after cs).gateway eui
      g.status = cs.reverse.findSome? (·.reported? eui) ∧ g.eui = eui := by
  refine ⟨fun request => ⟨verdict_activate b r w eui request, ?_⟩,
    fun frame => ⟨verdict_uplink b r w eui frame, ?_⟩,
    fun requestTimeout downlinkBuffer cs => status_after requestTimeout downlinkBuffer cs eui⟩
  · cases hview : joinView b r eui with
    | error e =>
      rw [(activate_of_refused b w request hview).1,
        (activate_of_refused b.noting (w, []) request hview).1]
      exact .inr (.inr ⟨untouched_failed e r eui w, untouched_failed e r eui (w, [])⟩)
    | ok announced =>
      obtain ⟨band, hband, hall⟩ := (joinView_eq_ok b).mp hview
      rw [activate_of_band b w request hband hall, ← or_assoc]
      exact .inl (result_raceFor _ _ _ _ _ _)
  · cases hview : uplinkView b r eui frame with
    | error e =>
      rw [(uplink_of_refused b w frame hview).1, (uplink_of_refused b.noting (w, []) frame hview).1]
      exact .inr (.inr ⟨untouched_failed e r eui w, untouched_failed e r eui (w, [])⟩)
    | ok announced =>
      obtain ⟨band, address, hband, haddress, hdiscover⟩ := (uplinkView_eq_ok b frame).mp hview
      rw [uplink_of_band b w frame hband haddress hdiscover, ← or_assoc]
      exact .inl (result_raceFor _ _ _ _ _ _)

end Router

end LorawanRouting
