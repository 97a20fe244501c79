import LorawanRouting.Proofs.RouterCalls

/-!
The connections of a router, told from the history of its requests alone. An attempt to connect a
broker decides about its connection until the next attempt, or until a join request finds it missing
from the directory; a connection is used for the address that it was made to and for no other.
-/

namespace LorawanRouting

variable {κ ω : Type}

/-- A complete view of the directory that was obtained, or an attempt with the client it gave. -/
inductive ConnectionEvent (κ : Type)
  | viewed (announced : List Announcement)
  | tried (a : Announcement) (client : Option κ)

abbrev ConnectionHistory (κ : Type) := List (ConnectionEvent κ)

structure Contacts (κ : Type) where
  result : Except RouterError Unit
  attempts : List Announcement
  asked : List String
  calls : List (BrokerCall κ)

def BrokerCall.client : BrokerCall κ → κ
  | .activate client _ | .uplink client _ => client

namespace RouterCall

def view? (r : Router κ) : RouterCall κ ω → Option (Except RouterError (List Announcement))
  | .uplink b _ eui frame => some (Router.uplinkView b r eui frame)
  | .activate b _ eui _ => some (Router.joinView b r eui)
  | _ => none

def completeView? (r : Router κ) : RouterCall κ ω → Option (List Announcement)
  | .activate b _ eui _ => (Router.joinView b r eui).toOption
  | _ => none

def connect : RouterCall κ ω → Announcement → Nat → Option κ
  | .uplink b .. | .activate b .. => b.connect
  | _ => fun _ _ => none

def contacts? (r : Router κ) : RouterCall κ ω → Option (Contacts κ)
  | .uplink b w eui frame =>
    let report := Router.uplink b r w eui frame
    some ⟨report.result, report.attempts, report.asked,
      (Router.uplink b.noting r (w, []) eui frame).world.2⟩
  | .activate b w eui request =>
    let report := Router.activate b r w eui request
    some ⟨report.result, report.attempts, report.asked,
      (Router.activate b.noting r (w, []) eui request).world.2⟩
  | _ => none

end RouterCall

namespace ConnectionHistory

def tries (connect : Announcement → Nat → Option κ) : List Announcement → ConnectionHistory κ
  | [] => []
  | a :: earlier => .tried a (Router.nextAttempt connect earlier a) :: tries connect earlier

def ofCall (r : Router κ) (c : RouterCall κ ω) : ConnectionHistory κ :=
  tries c.connect ((c.contacts? r).elim [] Contacts.attempts).reverse ++
    ((c.completeView? r).map .viewed).toList

def of (start : Router κ) (cs : List (RouterCall κ ω)) : ConnectionHistory κ :=
  (Runs.visits RouterCall.run start cs).flatMap fun e => ofCall e.1 e.2

/-- The connection from the latest attempt, if a broker was not missing from any view since. -/
def connection? (id : String) : ConnectionHistory κ → Option (Connection κ)
  | [] => none
  | .tried a client :: past =>
    if a.id = id then client.map (Connection.mk a.netAddress) else connection? id past
  | .viewed announced :: past =>
    if announced.any (·.id = id) then connection? id past else none

theorem of_concat (start : Router κ) (cs : List (RouterCall κ ω)) (c : RouterCall κ ω) :
    of start (cs ++ [c]) = ofCall (start.after cs) c ++ of start cs := by
  rw [of, Runs.visits_concat, List.flatMap_cons]
  rfl

theorem tries_concat (connect : Announcement → Nat → Option κ) (attempts : List Announcement)
    (a : Announcement) : tries connect (attempts ++ [a]).reverse =
      .tried a (Router.nextAttempt connect attempts a) :: tries connect attempts.reverse := by
  rw [List.reverse_concat, tries, Router.nextAttempt, List.count_reverse, Router.nextAttempt]

theorem exists_tried_of_connection? {id : String} {h : ConnectionHistory κ} {c : Connection κ}
    (hc : connection? id h = some c) :
    ∃ a, .tried a (some c.client) ∈ h ∧ a.id = id ∧ a.netAddress = c.address := by
  induction h with
  | nil => cases hc
  | cons e past ih =>
    have hpast : connection? id past = some c →
        ∃ a, .tried a (some c.client) ∈ e :: past ∧ a.id = id ∧ a.netAddress = c.address := by
      intro hc
      obtain ⟨a, ha, hsame⟩ := ih hc
      exact ⟨a, List.mem_cons_of_mem e ha, hsame⟩
    cases e with
    | tried a client =>
      rw [connection?] at hc
      split at hc
      case isFalse => exact hpast hc
      case isTrue hid =>
        obtain ⟨client, rfl, rfl⟩ := Option.map_eq_some_iff.mp hc
        exact ⟨a, List.mem_cons_self, hid, rfl⟩
    | viewed announced =>
      rw [connection?] at hc
      exact hpast (Option.ite_none_right_eq_some.mp hc).2

end ConnectionHistory

namespace Router
open ConnectionHistory

variable {r : Router κ} {h : ConnectionHistory κ} {attempt : Announcement → Option κ}
  {connect : Announcement → Nat → Option κ}

def Recalls (r : Router κ) (h : ConnectionHistory κ) : Prop :=
  ∀ id : String, r.connections[id]? = connection? id h

theorem client?_of_not_connected {a : Announcement} (h : r.connected a = false) :
    client? attempt r a = attempt a := by
  rw [← isSome_cached?, Option.isSome_eq_false_iff, Option.isNone_iff_eq_none] at h
  rw [client?, h, Option.none_or]

theorem getElem?_of_connected (attempt : Announcement → Option κ) {a : Announcement}
    (h : r.connected a = true) :
    r.connections[a.id]? = (client? attempt r a).map (Connection.mk a.netAddress) := by
  rw [connected] at h
  rw [client?, cached?]
  cases hc : r.connections[a.id]? with
  | none =>
    rw [hc] at h
    cases h
  | some c =>
    have haddress : c.address = a.netAddress := by simpa [hc] using h
    simp [← haddress]

theorem Recalls.connectAll (hr : r.Recalls h) (connect : Announcement → Nat → Option κ)
    (as : List Announcement) :
    (connectAll connect r as).router.Recalls
      (tries connect (unconnected connect r as).reverse ++ h) := by
  induction as using List.reverseRecOn with
  | nil => exact hr
  | append_singleton as a ih =>
    intro id
    simp only [connectAll_concat, getElem?_connectOne, unconnected_concat]
    cases hconnected : (Router.connectAll connect r as).router.connected a with
    | true =>
      rw [← getElem?_of_connected _ hconnected]
      split
      case isTrue hid => simpa [hid] using ih id
      case isFalse => simpa using ih id
    | false =>
      rw [client?_of_not_connected hconnected, attempts_connectAll, if_neg Bool.false_ne_true,
        tries_concat, List.cons_append, connection?, ih id]

theorem Recalls.forgetDeparted (hr : r.Recalls h) (as : List Announcement) :
    (r.forgetDeparted as).Recalls (.viewed as :: h) := by
  intro id
  rw [connection?, ← hr id, Router.forgetDeparted, Std.ExtTreeMap.getElem?_filter']
  cases r.connections[id]? <;> cases as.any (·.id = id) <;> rfl

theorem Recalls.exists_tried_of_reached (hr : r.Recalls h) {as : List Announcement}
    {e : Announcement × κ} (he : e ∈ reached connect r as) :
    e.1 ∈ as ∧ ∃ a, .tried a (some e.2) ∈ tries connect (unconnected connect r as).reverse ++ h ∧
      a.id = e.1.id ∧ a.netAddress = e.1.netAddress := by
  induction as using List.reverseRecOn with
  | nil => cases he
  | append_singleton as b ih =>
    have hmade := hr.connectAll connect as
    rw [reached_concat, List.mem_append] at he
    rw [unconnected_concat]
    cases hconnected : (Router.connectAll connect r as).router.connected b with
    | true =>
      rw [if_pos rfl, List.append_nil]
      rcases he with he | he
      · exact ⟨List.mem_append_left _ (ih he).1, (ih he).2⟩
      · obtain ⟨client, hclient, rfl⟩ := Option.map_eq_some_iff.mp (Option.mem_toList.mp he)
        have hcached := getElem?_of_connected
          (nextAttempt connect (Router.connectAll connect r as).attempts) hconnected
        rw [clientAfter?] at hclient
        rw [hclient, hmade b.id] at hcached
        exact ⟨by simp, exists_tried_of_connection? hcached⟩
    | false =>
      rw [if_neg Bool.false_ne_true, tries_concat]
      rcases he with he | he
      · obtain ⟨hmem, a, ha, hsame⟩ := ih he
        exact ⟨List.mem_append_left _ hmem, a, List.mem_cons_of_mem _ ha, hsame⟩
      · obtain ⟨client, hclient, rfl⟩ := Option.map_eq_some_iff.mp (Option.mem_toList.mp he)
        rw [clientAfter?, client?_of_not_connected hconnected, attempts_connectAll] at hclient
        exact ⟨by simp, b, by simp [hclient], rfl, rfl⟩

section Race

variable {ρ μ : Type} {s : Router κ} {announced : List Announcement}

theorem connections_raceFor (kind : RequestKind) (connect : Announcement → Nat → Option κ)
    (ask : κ → ω → Race.Conduct ρ × ω) (downlinkOf : ρ → Option Downlink) (request : μ) (w : ω) :
    (raceFor kind connect ask downlinkOf request s w announced).router.connections =
      (connectAll connect s announced).router.connections := by
  rw [raceFor_frame]

theorem contacts_raceFor (kind : RequestKind) (connect : Announcement → Nat → Option κ)
    (ask : κ → ω → Race.Conduct ρ × ω) (downlinkOf : ρ → Option Downlink) (request : μ) (w : ω)
    (call : κ → BrokerCall κ) (hcall : ∀ client, (call client).client = client)
    (h : ∀ a ∈ announced, s.connections[a.id]? = r.connections[a.id]?) :
    let report := raceFor kind connect ask downlinkOf request s w announced
    let noted := raceFor kind connect (BrokerCall.noting call ask) downlinkOf request s (w, [])
      announced
    report.attempts = unconnected connect r announced ∧
      report.asked = (reached connect r announced).map (·.1.id) ∧
      noted.world.2.map BrokerCall.client = (reached connect r announced).map Prod.snd := by
  intro report noted
  refine ⟨?_, ?_, ?_⟩
  · rw [← unconnected_congr h]
    exact attempts_raceFor
  · rw [← reached_congr h]
    exact asked_raceFor
  · have hnoted : noted = report.mapWorld (·, (reached connect s announced).map fun e => call e.2) :=
      raceFor_noting call
    rw [hnoted, reached_congr h]
    exact List.map_map.trans (List.map_congr_left fun e _ => hcall e.2)

end Race

def pruned (r : Router κ) (c : RouterCall κ ω) : Router κ :=
  (c.completeView? r).elim r r.forgetDeparted

theorem contacts_of_view {c : RouterCall κ ω} {announced : List Announcement}
    (hview : c.view? r = some (.ok announced)) : ∃ contacts, c.contacts? r = some contacts ∧
      contacts.attempts = unconnected c.connect r announced ∧
      contacts.asked = (reached c.connect r announced).map (·.1.id) ∧
      contacts.calls.map BrokerCall.client = (reached c.connect r announced).map Prod.snd ∧
      (∀ a ∈ announced, (r.pruned c).connections[a.id]? = r.connections[a.id]?) ∧
      ∀ id : String, (c.run r).2.connections[id]? =
        (connectAll c.connect (r.pruned c) announced).router.connections[id]? := by
  cases c with
  | uplink b w eui frame =>
    obtain ⟨band, address, hband, haddress, hdiscover⟩ :=
      (uplinkView_eq_ok b frame).mp (Option.some.inj hview)
    refine ⟨_, rfl, ?_⟩
    simp only [RouterCall.run, uplink_of_band b w frame hband haddress hdiscover,
      uplink_of_band b.noting (w, []) frame hband haddress hdiscover]
    obtain ⟨hattempts, hasked, hcalls⟩ := contacts_raceFor (r := r) (s := r.countRx eui) .uplink
      b.connect (b.uplink · _) id _ w (.uplink · _) (fun _ => rfl) fun _ _ => rfl
    refine ⟨hattempts, hasked, hcalls, fun _ _ => rfl, fun id => ?_⟩
    rw [connections_raceFor]
    exact (connectAll_congr (r := r.countRx eui) (s := r) b.connect fun _ _ => rfl).2 id rfl
  | activate b w eui request =>
    have hjoin := Option.some.inj hview
    obtain ⟨band, hband, hall⟩ := (joinView_eq_ok b).mp hjoin
    have hpruned : r.pruned (.activate b w eui request) = r.forgetDeparted announced := by
      rw [pruned, RouterCall.completeView?, hjoin]
      rfl
    have hkept : ∀ a ∈ announced, ((r.countRx eui).forgetDeparted announced).connections[a.id]? =
        r.connections[a.id]? := fun a ha => getElem?_forgetDeparted ha
    refine ⟨_, rfl, ?_⟩
    simp only [RouterCall.run, hpruned, activate_of_band b w request hband hall,
      activate_of_band b.noting (w, []) request hband hall]
    obtain ⟨hattempts, hasked, hcalls⟩ := contacts_raceFor .activation b.connect (b.activate · _) some
      _ w (.activate · _) (fun _ => rfl) hkept
    refine ⟨hattempts, hasked, hcalls, fun a ha => getElem?_forgetDeparted ha, fun id => ?_⟩
    rw [connections_raceFor]
    exact (connectAll_congr (r := (r.countRx eui).forgetDeparted announced)
      (s := r.forgetDeparted announced) b.connect fun _ _ => rfl).2 id rfl
  | report | downlink | subscribe | unsubscribe | tick | receive | drop => cases hview

theorem contacts_of_refused {c : RouterCall κ ω} {e : RouterError}
    (hview : c.view? r = some (.error e)) : e.isNotAccepted = false ∧
      c.contacts? r = some ⟨.error e, [], [], []⟩ ∧ c.completeView? r = none ∧
      (c.run r).2.connections = r.connections := by
  cases c with
  | uplink b w eui frame =>
    have hrefused := Option.some.inj hview
    obtain ⟨hreport, hkind⟩ := uplink_of_refused b w frame hrefused
    obtain ⟨hnoted, -⟩ := uplink_of_refused b.noting (w, []) frame hrefused
    simp only [RouterCall.contacts?, RouterCall.run, hreport, hnoted]
    exact ⟨hkind, rfl, rfl, rfl⟩
  | activate b w eui request =>
    have hrefused := Option.some.inj hview
    obtain ⟨hreport, hkind⟩ := activate_of_refused b w request hrefused
    obtain ⟨hnoted, -⟩ := activate_of_refused b.noting (w, []) request hrefused
    simp only [RouterCall.contacts?, RouterCall.run, RouterCall.completeView?, hreport, hnoted, hrefused]
    exact ⟨hkind, rfl, rfl, rfl⟩
  | report | downlink | subscribe | unsubscribe | tick | receive | drop => cases hview

theorem connections_of_other {c : RouterCall κ ω} (hview : c.view? r = none) :
    c.contacts? r = none ∧ c.completeView? r = none ∧ (c.run r).2.connections = r.connections := by
  cases c with
  | uplink | activate => cases hview
  | downlink m =>
    refine ⟨rfl, rfl, ?_⟩
    change (r.deliver m).2.connections = _
    rw [deliver_frame]
  | report | subscribe | unsubscribe | tick | receive | drop => exact ⟨rfl, rfl, rfl⟩

theorem Recalls.pruned (hr : r.Recalls h) (c : RouterCall κ ω) :
    (r.pruned c).Recalls (((c.completeView? r).map .viewed).toList ++ h) := by
  rw [Router.pruned]
  cases c.completeView? r with
  | none => exact hr
  | some announced => exact hr.forgetDeparted announced

theorem Recalls.run (hr : r.Recalls h) (c : RouterCall κ ω) :
    (c.run r).2.Recalls (ofCall r c ++ h) := by
  have hsame : (c.contacts? r).elim [] Contacts.attempts = [] → c.completeView? r = none →
      (c.run r).2.connections = r.connections → (c.run r).2.Recalls (ofCall r c ++ h) := by
    intro hattempts hcomplete hconnections id
    rw [ofCall, hattempts, hcomplete, hconnections]
    exact hr id
  cases hview : c.view? r with
  | none =>
    obtain ⟨hcontacts, hcomplete, hconnections⟩ := connections_of_other hview
    exact hsame (by rw [hcontacts]; rfl) hcomplete hconnections
  | some view =>
    cases view with
    | error e =>
      obtain ⟨-, hcontacts, hcomplete, hconnections⟩ := contacts_of_refused hview
      exact hsame (by rw [hcontacts]; rfl) hcomplete hconnections
    | ok announced =>
      obtain ⟨contacts, hcontacts, hattempts, -, -, hkept, hconnections⟩ := contacts_of_view hview
      intro id
      have hmade := (hr.pruned c).connectAll c.connect announced
      rw [unconnected_congr hkept] at hmade
      rw [hconnections, ofCall, hcontacts, Option.elim_some, hattempts, List.append_assoc]
      exact hmade id

theorem recalls_after (requestTimeout downlinkBuffer : Nat) (cs : List (RouterCall κ ω)) :
    let start : Router κ := new requestTimeout downlinkBuffer
    (start.after cs).Recalls (ConnectionHistory.of start cs) := by
  intro start
  -- the latest call comes first in a history
  induction cs using List.reverseRecOn with
  | nil => exact fun id => Std.ExtTreeMap.getElem?_empty
  | append_singleton cs c ih =>
    rw [after_concat, of_concat]
    exact ih.run c

/-- What connections a router has after any calls, and what the next call makes of them. -/
theorem connections_follow_history (requestTimeout downlinkBuffer : Nat)
    (cs : List (RouterCall κ ω)) (c : RouterCall κ ω) :
    let start : Router κ := new requestTimeout downlinkBuffer
    let r := start.after cs
    let next := (c.run r).2
    (∀ id : String, r.connections[id]? = connection? id (ConnectionHistory.of start cs)) ∧
    (∀ announced, c.view? r = some (.ok announced) →
      ∃ (contacts : Contacts κ) (brokers : List (Announcement × κ)), c.contacts? r = some contacts ∧
        contacts.asked = brokers.map (·.1.id) ∧
        contacts.calls.map BrokerCall.client = brokers.map Prod.snd ∧
        (∀ e ∈ brokers, e.1 ∈ announced ∧
          ∃ a, .tried a (some e.2) ∈ ConnectionHistory.of start (cs ++ [c]) ∧
            a.id = e.1.id ∧ a.netAddress = e.1.netAddress) ∧
        contacts.attempts = unconnected c.connect r announced ∧
        ((announced.map Announcement.id).Nodup →
          contacts.attempts = (announced.filter fun a => !r.connected a) ∧
          brokers.map Prod.fst = (announced.filter fun a => r.connected a || (c.connect a 0).isSome) ∧
          ∀ a ∈ announced, r.connected a = false → c.connect a 0 = none →
            next.connections[a.id]? = none)) ∧
    (∀ e, c.view? r = some (.error e) → e.isNotAccepted = false ∧
      c.contacts? r = some ⟨.error e, [], [], []⟩ ∧ next.connections = r.connections) ∧
    (c.view? r = none → c.contacts? r = none ∧ next.connections = r.connections) := by
  intro start r next
  have hr : r.Recalls (ConnectionHistory.of start cs) := recalls_after requestTimeout downlinkBuffer cs
  refine ⟨hr, fun announced hview => ?_, fun e hview => ?_, fun hview => ?_⟩
  · obtain ⟨contacts, hcontacts, hattempts, hasked, hcalls, hkept, hconnections⟩ :=
      contacts_of_view hview
    refine ⟨contacts, reached c.connect r announced, hcontacts, hasked, hcalls, fun e he => ?_, hattempts,
      fun hids => ⟨?_, ?_, fun a ha hmoved hfailed => ?_⟩⟩
    · rw [← reached_congr hkept] at he
      have hmade := (hr.pruned c).exists_tried_of_reached he
      rw [unconnected_congr hkept, ← hattempts] at hmade
      rw [of_concat, ofCall, hcontacts, List.append_assoc]
      exact hmade
    · rw [hattempts, unconnected_of_nodup hids]
    · simp only [map_fst_reached_of_nodup hids, isSome_client?]
    · rw [hconnections, getElem?_connectAll_of_mem hids ha, client?_congr (hkept a ha),
        client?_of_not_connected hmoved, hfailed, Option.map_none]
  · obtain ⟨hkind, hcontacts, -, hconnections⟩ := contacts_of_refused hview
    exact ⟨hkind, hcontacts, hconnections⟩
  · obtain ⟨hcontacts, -, hconnections⟩ := connections_of_other hview
    exact ⟨hcontacts, hconnections⟩

end Router

end LorawanRouting
