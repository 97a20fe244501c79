import LorawanRouting.Proofs.Requests
import LorawanRouting.Proofs.StreamHistory

/-!
Runs of a router. Gateways report, send frames and follow their streams, and what a request finds
behind the router may be something else every time. Whatever is called, a router is left as it was
but for the gateway that the call is for, its connections, and at most one downlink that was sent.
-/

namespace LorawanRouting

variable {κ ω : Type}

/-- A call on a router; consumers that receive from its streams are part of a run. -/
inductive RouterCall (κ ω : Type)
  | report (eui : GatewayEui) (status : GatewayStatus)
  | uplink (b : Backhaul κ ω) (w : ω) (eui : GatewayEui) (frame : Uplink)
  | activate (b : Backhaul κ ω) (w : ω) (eui : GatewayEui) (request : JoinRequest)
  | downlink (m : Downlink)
  | subscribe (eui : GatewayEui)
  | unsubscribe (eui : GatewayEui)
  | tick (eui : GatewayEui)
  | receive (receiver : Receiver)
  | drop (receiver : Receiver)

inductive RouterAnswer
  | noted
  | done (result : Except RouterError Unit)
  | opened (result : Except RouterError Receiver)
  | totals (window : UInt64 × UInt64)
  | found (received : Received Downlink)

def RouterAnswer.totals? : RouterAnswer → Option (UInt64 × UInt64)
  | .totals window => some window
  | _ => none

namespace RouterCall

def run (r : Router κ) : RouterCall κ ω → RouterAnswer × Router κ
  | .report eui status => (.noted, r.report eui status)
  | .uplink b w eui frame =>
    let report := Router.uplink b r w eui frame
    (.done report.result, report.router)
  | .activate b w eui request =>
    let report := Router.activate b r w eui request
    (.done report.result, report.router)
  | .downlink m =>
    let reply := r.sendDownlink m
    (.done reply.answer, reply.state)
  | .subscribe eui =>
    let reply := r.subscribe eui
    (.opened reply.answer, reply.state)
  | .unsubscribe eui =>
    let reply := r.unsubscribe eui
    (.done reply.answer, reply.state)
  | .tick eui => (.totals ((r.tick eui).gateway eui).utilization.last, r.tick eui)
  | .receive receiver =>
    let (found, downlinks) := r.downlinks.receive receiver
    (.found found, r.withDownlinks downlinks)
  | .drop receiver => (.noted, r.withDownlinks (r.downlinks.drop receiver))

def requester? : RouterCall κ ω → Option GatewayEui
  | .uplink _ _ eui _ | .activate _ _ eui _ => some eui
  | _ => none

def gateway? : RouterCall κ ω → Option GatewayEui
  | .report eui _ | .uplink _ _ eui _ | .activate _ _ eui _ | .subscribe eui | .unsubscribe eui
  | .tick eui => some eui
  | .downlink m => m.option.map (·.gateway)
  | .receive _ | .drop _ => none

end RouterCall

namespace Router

def after (start : Router κ) (cs : List (RouterCall κ ω)) : Router κ :=
  (Runs.run RouterCall.run start cs).2

theorem after_concat (start : Router κ) (cs : List (RouterCall κ ω)) (c : RouterCall κ ω) :
    start.after (cs ++ [c]) = (c.run (start.after cs)).2 := by
  rw [after, Runs.run_concat]
  rfl

variable {r s : Router κ} {m : Downlink}

def Prepared (r : Router κ) (eui : GatewayEui) (s : Router κ) : Prop :=
  ∃ connections, s = { r.countRx eui with connections }

theorem prepared_countRx (r : Router κ) (eui : GatewayEui) : r.Prepared eui (r.countRx eui) :=
  ⟨_, rfl⟩

theorem Prepared.forgetDeparted {eui : GatewayEui} (h : r.Prepared eui s)
    (as : List Announcement) : r.Prepared eui (s.forgetDeparted as) := by
  obtain ⟨connections, rfl⟩ := h
  exact ⟨_, rfl⟩

theorem Prepared.connectAll {eui : GatewayEui} (h : r.Prepared eui s)
    (connect : Announcement → Nat → Option κ) (as : List Announcement) :
    r.Prepared eui (connectAll connect s as).router := by
  obtain ⟨connections, rfl⟩ := h
  exact ⟨_, connectAll_frame _ as⟩

theorem run_of_requester (c : RouterCall κ ω) (r : Router κ) {eui : GatewayEui}
    (h : c.requester? = some eui) : ∃ s, r.Prepared eui s ∧
      ((c.run r).2 = s ∨ ∃ m, s.Delivers m ∧ (c.run r).2 = (s.deliver m).2) := by
  cases c with
  | uplink b w eui frame =>
    obtain rfl := Option.some.inj h
    have hprepared := prepared_countRx r eui
    cases hview : uplinkView b r eui frame with
    | error e => exact ⟨_, hprepared, .inl (congrArg Report.router (uplink_of_refused b w frame hview).1)⟩
    | ok announced =>
      obtain ⟨band, address, hband, haddress, hdiscover⟩ := (uplinkView_eq_ok b frame).mp hview
      refine ⟨_, hprepared.connectAll b.connect announced, ?_⟩
      simp only [RouterCall.run, uplink_of_band b w frame hband haddress hdiscover]
      exact settle_router .uplink id _ _
  | activate b w eui request =>
    obtain rfl := Option.some.inj h
    have hprepared := prepared_countRx r eui
    cases hview : joinView b r eui with
    | error e =>
      exact ⟨_, hprepared, .inl (congrArg Report.router (activate_of_refused b w request hview).1)⟩
    | ok announced =>
      obtain ⟨band, hband, hall⟩ := (joinView_eq_ok b).mp hview
      refine ⟨_, (hprepared.forgetDeparted announced).connectAll b.connect announced, ?_⟩
      simp only [RouterCall.run, activate_of_band b w request hband hall]
      exact settle_router .activation some _ _
  | report | downlink | subscribe | unsubscribe | tick | receive | drop => cases h

theorem downlinks_deliver (h : s.Delivers m) : ∃ call : StreamCall Downlink,
    (s.deliver m).2.downlinks = (call.run s.downlinks).2 := by
  obtain ⟨o, -, -, hdeliver⟩ := deliver_eq_of_delivers h
  exact ⟨.send o.gateway.text m, by rw [hdeliver]; rfl⟩

theorem downlinks_run (c : RouterCall κ ω) (r : Router κ) :
    (c.run r).2.downlinks = r.downlinks ∨
      ∃ call : StreamCall Downlink, (c.run r).2.downlinks = (call.run r.downlinks).2 := by
  have hrequest : ∀ eui, c.requester? = some eui → _ := fun eui => run_of_requester c r
  cases c with
  | report | tick => exact Or.inl rfl
  | uplink _ _ eui _ | activate _ _ eui _ =>
    obtain ⟨_, ⟨connections, rfl⟩, hsame | ⟨m, hdelivers, hsent⟩⟩ := hrequest eui rfl
    · rw [hsame]
      exact Or.inl rfl
    · rw [hsent]
      exact Or.inr (downlinks_deliver hdelivers)
  | downlink m =>
    by_cases hdelivers : r.Delivers m
    · exact Or.inr (downlinks_deliver hdelivers)
    · exact Or.inl (congrArg (·.2.downlinks) (deliver_of_not_delivers hdelivers))
  | subscribe eui => exact Or.inr ⟨.activate eui.text, rfl⟩
  | unsubscribe eui => exact Or.inr ⟨.deactivate eui.text, rfl⟩
  | receive receiver => exact Or.inr ⟨.receive receiver, rfl⟩
  | drop receiver => exact Or.inr ⟨.drop receiver, rfl⟩

theorem follows_after (requestTimeout downlinkBuffer : Nat) (cs : List (RouterCall κ ω)) :
    ∃ h, ((new requestTimeout downlinkBuffer : Router κ).after cs).downlinks.Follows h := by
  refine Runs.keep (fun r : Router κ => ∃ h, r.downlinks.Follows h) (fun r c hr => ?_)
    ⟨[], Registry.follows_new downlinkBuffer⟩ cs
  obtain ⟨h, hf⟩ := hr
  rcases downlinks_run c r with hsame | ⟨call, hcall⟩
  · exact ⟨h, hsame ▸ hf⟩
  · exact ⟨_, hcall ▸ hf.step call⟩

end Router

end LorawanRouting
