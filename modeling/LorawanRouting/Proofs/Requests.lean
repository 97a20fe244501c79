import LorawanRouting.Router.Request
import LorawanRouting.Proofs.Connections
import LorawanRouting.Proofs.Downlinks

/-!
Requests on their way through a router: whom a request reaches, and what the answers come to. The
brokers are those that were connected, each asked in turn; connecting and asking send no downlink.
-/

namespace LorawanRouting

variable {κ ω ω' μ ρ : Type}

inductive BrokerCall (κ : Type)
  | activate (client : κ) (m : Activation)
  | uplink (client : κ) (m : RoutedUplink)

def BrokerCall.noting (call : κ → BrokerCall κ) (ask : κ → ω → Race.Conduct ρ × ω) (client : κ)
    (w : ω × List (BrokerCall κ)) : Race.Conduct ρ × ω × List (BrokerCall κ) :=
  let (conduct, world) := ask client w.1
  (conduct, world, w.2 ++ [call client])

/-- The same brokers, with the calls they got in order. -/
def Backhaul.noting (b : Backhaul κ ω) : Backhaul κ (ω × List (BrokerCall κ)) where
  all := b.all
  discover := b.discover
  connect := b.connect
  activate client m := BrokerCall.noting (.activate · m) (b.activate · m) client
  uplink client m := BrokerCall.noting (.uplink · m) (b.uplink · m) client

def Report.mapWorld (f : ω → ω') (report : Report κ ω μ) : Report κ ω' μ :=
  ⟨report.result, report.router, f report.world, report.attempts, report.asked, report.request,
    report.elapsed⟩

namespace Router

variable {r s after : Router κ}

theorem askAll_noting (call : κ → BrokerCall κ) (ask : κ → ω → Race.Conduct ρ × ω)
    (clients : List (String × κ)) (w : ω) (calls : List (BrokerCall κ)) :
    askAll (BrokerCall.noting call ask) clients (w, calls) =
      ((askAll ask clients w).1, (askAll ask clients w).2,
        calls ++ clients.map fun e => call e.2) := by
  induction clients generalizing w calls with
  | nil => simp [askAll]
  | cons e clients ih =>
    simp only [askAll, BrokerCall.noting, ih, List.map_cons, List.append_assoc, List.singleton_append]

section Race

variable {kind : RequestKind} {connect : Announcement → Nat → Option κ} {ask : κ → ω → Race.Conduct ρ × ω}
  {downlinkOf : ρ → Option Downlink} {request : μ} {w : ω} {announced : List Announcement}

theorem raceFor_noting (call : κ → BrokerCall κ) :
    raceFor kind connect (BrokerCall.noting call ask) downlinkOf request r (w, []) announced =
      (raceFor kind connect ask downlinkOf request r w announced).mapWorld
        (·, (reached connect r announced).map fun e => call e.2) := by
  simp only [raceFor, askAll_noting, clients_connectAll, List.map_map, List.nil_append,
    Report.mapWorld]
  rfl

theorem asked_raceFor :
    (raceFor kind connect ask downlinkOf request r w announced).asked =
      (reached connect r announced).map (·.1.id) := by
  rw [raceFor, clients_connectAll]
  exact List.map_map

theorem attempts_raceFor :
    (raceFor kind connect ask downlinkOf request r w announced).attempts =
      unconnected connect r announced :=
  attempts_connectAll r announced

theorem settle_raceFor :
    let report := raceFor kind connect ask downlinkOf request r w announced
    let peers := (askAll ask ((reached connect r announced).map fun e => (e.1.id, e.2)) w).1
    (report.result, report.router) =
      settle kind downlinkOf (connectAll connect r announced).router
        (Race.arrivals r.requestTimeout peers) := by
  rw [raceFor, clients_connectAll]
  rfl

end Race

theorem SentNothing.delivers_iff (h : r.SentNothing s) (m : Downlink) :
    s.Delivers m ↔ r.Delivers m := by
  rw [Delivers, Delivers, h.downlinks]

theorem SentNothing.sent (h : r.SentNothing s) {m : Downlink} (hs : s.Sent m after) :
    r.Sent m after := by
  obtain ⟨o, ho, hqueued, hcounts⟩ := hs
  refine ⟨o, ho, h.downlinks ▸ hqueued, fun g => ?_⟩
  rw [hcounts, h.counts]

theorem sentNothing_countRx (r : Router κ) (eui : GatewayEui) : r.SentNothing (r.countRx eui) := by
  refine ⟨rfl, fun g => ?_⟩
  rw [countRx, gateway_changeGateway]
  by_cases hg : g = eui
  · subst hg
    simp [Gateway.count, Utilization.addRx]
  · simp [hg]

theorem sentNothing_connectAll (connect : Announcement → Nat → Option κ) (r : Router κ)
    (as : List Announcement) : r.SentNothing (connectAll connect r as).router := by
  rw [connectAll_frame]
  exact ⟨rfl, fun _ => rfl⟩

theorem sentNothing_forgetDeparted (r : Router κ) (as : List Announcement) :
    r.SentNothing (r.forgetDeparted as) :=
  ⟨rfl, fun _ => rfl⟩

theorem SentNothing.trans (h : r.SentNothing s) (hs : s.SentNothing after) :
    r.SentNothing after :=
  ⟨hs.downlinks.trans h.downlinks, fun g => (hs.counts g).trans (h.counts g)⟩

theorem SentNothing.acceptable_iff (h : r.SentNothing s) (downlinkOf : ρ → Option Downlink)
    (a : Race.Arrival ρ) : s.Acceptable downlinkOf a ↔ r.Acceptable downlinkOf a := by
  simp only [Acceptable, h.delivers_iff]

def SentFor (r : Router κ) (carried : Option Downlink) (after : Router κ) : Prop :=
  match carried with
  | none => r.SentNothing after
  | some m => r.Sent m after

theorem settle_spec (h : r.SentNothing s) (kind : RequestKind) (downlinkOf : ρ → Option Downlink)
    (answers : List (Race.Arrival ρ)) :
    let result := (settle kind downlinkOf s answers).1
    let after := (settle kind downlinkOf s answers).2
    (result = .ok () ↔ ∃ a ∈ answers, r.Acceptable downlinkOf a) ∧
    (result = .ok () → ∃ earlier a later, answers = earlier ++ a :: later ∧
      (∀ e ∈ earlier, ¬ r.Acceptable downlinkOf e) ∧ r.Acceptable downlinkOf a ∧
      r.SentFor (downlinkOf a.answer) after) ∧
    (result ≠ .ok () → result = .error (.notAccepted kind) ∧ r.SentNothing after) := by
  rcases unacceptable_or_first downlinkOf s answers with hnone | ⟨earlier, a, later, rfl, hearlier, ha⟩
  · rw [settle_of_unacceptable kind hnone]
    simp only [h.acceptable_iff] at hnone
    refine ⟨⟨fun hok => ?_, fun hsome => ?_⟩, fun hok => ?_, fun _ => ⟨rfl, h⟩⟩
    · cases hok
    · obtain ⟨a, ha, hacceptable⟩ := hsome
      exact absurd hacceptable (hnone a ha)
    · cases hok
  · have hsent : r.SentFor (downlinkOf a.answer)
        ((downlinkOf a.answer).elim s fun m => (s.deliver m).2) := by
      cases hm : downlinkOf a.answer with
      | none => exact h
      | some m => exact h.sent (deliver_of_delivers (ha m hm)).2
    rw [settle_of_first kind hearlier ha]
    simp only [h.acceptable_iff] at hearlier ha
    exact ⟨⟨fun _ => ⟨a, by simp, ha⟩, fun _ => rfl⟩,
      fun _ => ⟨earlier, a, later, rfl, hearlier, ha, hsent⟩, fun hne => absurd rfl hne⟩

theorem settle_router (kind : RequestKind) (downlinkOf : ρ → Option Downlink) (r : Router κ)
    (answers : List (Race.Arrival ρ)) :
    (settle kind downlinkOf r answers).2 = r ∨
      ∃ m, r.Delivers m ∧ (settle kind downlinkOf r answers).2 = (r.deliver m).2 := by
  rcases unacceptable_or_first downlinkOf r answers with hnone | ⟨earlier, a, later, rfl, hearlier, ha⟩
  · left
    rw [settle_of_unacceptable kind hnone]
  · rw [settle_of_first kind hearlier ha]
    cases hm : downlinkOf a.answer with
    | none => exact Or.inl rfl
    | some m => exact Or.inr ⟨m, ha m hm, rfl⟩

theorem raceFor_frame (kind : RequestKind) (connect : Announcement → Nat → Option κ)
    (ask : κ → ω → Race.Conduct ρ × ω) (downlinkOf : ρ → Option Downlink) (request : μ) (r : Router κ)
    (w : ω) (announced : List Announcement) :
    (raceFor kind connect ask downlinkOf request r w announced).router = { r with
      connections := (connectAll connect r announced).router.connections
      gateways := (raceFor kind connect ask downlinkOf request r w announced).router.gateways
      downlinks := (raceFor kind connect ask downlinkOf request r w announced).router.downlinks } := by
  have hsettle : (raceFor kind connect ask downlinkOf request r w announced).router =
      (settle kind downlinkOf (connectAll connect r announced).router _).2 :=
    congrArg Prod.snd
      (@settle_raceFor κ ω μ ρ r kind connect ask downlinkOf request w announced)
  rw [hsettle]
  rcases settle_router kind downlinkOf (connectAll connect r announced).router _ with
    hsame | ⟨m, -, hsent⟩
  · rw [hsame, connectAll_frame]
  · rw [hsent, deliver_frame, connectAll_frame]

/-- The announcements that a join request goes by, or why it is turned away. -/
def joinView (b : Backhaul κ ω) (r : Router κ) (eui : GatewayEui) :
    Except RouterError (List Announcement) :=
  (r.bandOf eui).bind fun _ => b.all.mapError .discovery

def uplinkView (b : Backhaul κ ω) (r : Router κ) (eui : GatewayEui) (frame : Uplink) :
    Except RouterError (List Announcement) :=
  (r.bandOf eui).bind fun _ =>
    match frameAddress? frame.payload with
    | none => .error .shortFrame
    | some address => (b.discover address).mapError .discovery

variable {eui : GatewayEui} {band : Band} {e : RouterError} {announced : List Announcement}

theorem bandOf_countRx (r : Router κ) (eui : GatewayEui) :
    (r.countRx eui).bandOf eui = r.bandOf eui := by
  rw [bandOf, bandOf, countRx, gateway_changeGateway, if_pos rfl]
  rfl

theorem bandOf_of_status {status : GatewayStatus} (hstatus : (r.gateway eui).status = some status)
    (hband : Band.ofRegion status.region = .ok band) : r.bandOf eui = .ok band := by
  simp only [bandOf, Gateway.lastStatus, hstatus, hband]
  rfl

theorem activate_of_band (b : Backhaul κ ω) (w : ω) (request : JoinRequest)
    (hband : r.bandOf eui = .ok band) (hall : b.all = .ok announced) :
    let stamped := { request with gateway := { request.gateway with gateway := eui } }
    let activation := stamped.toActivation band
    activate b r w eui request =
      raceFor .activation b.connect (b.activate · activation) some activation
        ((r.countRx eui).forgetDeparted announced) w announced := by
  simp only [activate, bandOf_countRx, hband, hall]

theorem uplink_of_band (b : Backhaul κ ω) (w : ω) (frame : Uplink) {address : DevAddr}
    (hband : r.bandOf eui = .ok band) (haddress : frameAddress? frame.payload = some address)
    (hdiscover : b.discover address = .ok announced) :
    let stamped := { frame with gateway := { frame.gateway with gateway := eui } }
    let routed := stamped.toRouted band
    uplink b r w eui frame =
      raceFor .uplink b.connect (b.uplink · routed) id routed (r.countRx eui) w announced := by
  simp only [uplink, bandOf_countRx, hband, haddress, hdiscover]

theorem joinView_eq_ok (b : Backhaul κ ω) : joinView b r eui = .ok announced ↔
    ∃ band, r.bandOf eui = .ok band ∧ b.all = .ok announced := by
  rw [joinView]
  cases r.bandOf eui with
  | error e => simp [Except.bind]
  | ok band => cases b.all <;> simp [Except.bind, Except.mapError]

theorem uplinkView_eq_ok (b : Backhaul κ ω) (frame : Uplink) :
    uplinkView b r eui frame = .ok announced ↔ ∃ band address, r.bandOf eui = .ok band ∧
      frameAddress? frame.payload = some address ∧ b.discover address = .ok announced := by
  rw [uplinkView]
  cases r.bandOf eui with
  | error e => simp [Except.bind]
  | ok band =>
    cases frameAddress? frame.payload with
    | none => simp [Except.bind]
    | some address =>
      cases hd : b.discover address <;> simp [Except.bind, Except.mapError, hd]

theorem bandOf_error (h : r.bandOf eui = .error e) : e.isNotAccepted = false := by
  rw [bandOf] at h
  split at h
  · obtain rfl := Except.error.inj h
    rfl
  next status _ =>
    cases hband : Band.ofRegion status.region with
    | error cause =>
      rw [hband] at h
      obtain rfl := Except.error.inj h
      rfl
    | ok band =>
      rw [hband] at h
      cases h

theorem activate_of_refused (b : Backhaul κ ω) (w : ω) (request : JoinRequest)
    (h : joinView b r eui = .error e) :
    activate b r w eui request = Report.failed e (r.countRx eui) w ∧ e.isNotAccepted = false := by
  rw [joinView] at h
  cases hband : r.bandOf eui with
  | error cause =>
    rw [hband] at h
    obtain rfl := Except.error.inj h
    exact ⟨by simp only [activate, bandOf_countRx, hband], bandOf_error hband⟩
  | ok band =>
    rw [hband] at h
    cases hall : b.all with
    | ok announced =>
      rw [hall] at h
      cases h
    | error cause =>
      rw [hall] at h
      obtain rfl := Except.error.inj h
      exact ⟨by simp only [activate, bandOf_countRx, hband, hall], rfl⟩

theorem uplink_of_refused (b : Backhaul κ ω) (w : ω) (frame : Uplink)
    (h : uplinkView b r eui frame = .error e) :
    uplink b r w eui frame = Report.failed e (r.countRx eui) w ∧ e.isNotAccepted = false := by
  rw [uplinkView] at h
  cases hband : r.bandOf eui with
  | error cause =>
    rw [hband] at h
    obtain rfl := Except.error.inj h
    exact ⟨by simp only [uplink, bandOf_countRx, hband], bandOf_error hband⟩
  | ok band =>
    rw [hband] at h
    cases haddress : frameAddress? frame.payload with
    | none =>
      simp only [Except.bind, haddress] at h
      obtain rfl := Except.error.inj h
      exact ⟨by simp only [uplink, bandOf_countRx, hband, haddress], rfl⟩
    | some address =>
      simp only [Except.bind, haddress] at h
      cases hdiscover : b.discover address with
      | ok announced =>
        rw [hdiscover] at h
        cases h
      | error cause =>
        rw [hdiscover] at h
        obtain rfl := Except.error.inj h
        exact ⟨by simp only [uplink, bandOf_countRx, hband, haddress, hdiscover], rfl⟩

end Router

end LorawanRouting
