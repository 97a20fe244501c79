import LorawanRouting.Proofs.Race

/-!
What becomes of a downlink. It is queued if the stream of the gateway that it names is open, is still
received from and has room; otherwise it is refused without a trace. A race hands over downlinks until
one is queued, so the streams that its first answer finds are those that every later one finds.
-/

namespace LorawanRouting

namespace Registry

variable {α : Type} {r : Registry α} {id : String}

/-- A stream that is open, still received from and not full. -/
def Takes (r : Registry α) (id : String) : Prop :=
  ∃ n c, r.live[id]? = some n ∧ r.channels[n]? = some c ∧ c.hasReceiver = true ∧
    c.queue.length < r.capacity

/-- The same streams, but for one message more at the end of one queue. -/
def Queued (r : Registry α) (id : String) (m : α) (after : Registry α) : Prop :=
  ∃ n c, r.live[id]? = some n ∧ r.channels[n]? = some c ∧
    after = { r with channels := r.channels.set n { c with queue := c.queue ++ [m] } }

theorem Queued.exists_mem {m : α} {after : Registry α} (h : r.Queued id m after) :
    ∃ c ∈ after.channels, m ∈ c.queue := by
  obtain ⟨n, c, -, hc, rfl⟩ := h
  have hlt := (List.getElem?_eq_some_iff.mp hc).1
  exact ⟨{ c with queue := c.queue ++ [m] }, List.mem_set hlt _, by simp⟩

theorem send_of_takes (h : r.Takes id) (m : α) :
    (r.send id m).answer = .ok () ∧ r.Queued id m (r.send id m).state := by
  obtain ⟨n, c, hn, hc, hheld, hroom⟩ := h
  have hsend : r.send id m =
      ⟨.ok (), { r with channels := r.channels.set n { c with queue := c.queue ++ [m] } }⟩ := by
    simp [send, hn, hc, hheld, Nat.not_le.mpr hroom]
  rw [hsend]
  exact ⟨rfl, n, c, hn, hc, rfl⟩

theorem send_of_not_takes (h : ¬ r.Takes id) (m : α) : ∃ e, r.send id m = ⟨.error e, r⟩ := by
  rw [send]
  cases hn : r.live[id]? with
  | none => exact ⟨_, rfl⟩
  | some n =>
    cases hc : r.channels[n]? with
    | none => exact ⟨.notActive id, by simp [hc]⟩
    | some c =>
      cases hheld : c.hasReceiver with
      | false => exact ⟨.closed id, by simp [hc, hheld]⟩
      | true =>
        have hfull : r.capacity ≤ c.queue.length := by
          by_contra hroom
          exact h ⟨n, c, hn, hc, hheld, Nat.not_le.mp hroom⟩
        exact ⟨.full id, by simp [hc, hheld, hfull]⟩

end Registry

namespace Router

variable {κ ρ : Type} {r : Router κ} {m : Downlink} {downlinkOf : ρ → Option Downlink}

def Delivers (r : Router κ) (m : Downlink) : Prop :=
  ∃ o ∈ m.option, r.downlinks.Takes o.gateway.text

/-- One downlink was sent: it is on the stream of its gateway, which alone counts it. -/
def Sent (r : Router κ) (m : Downlink) (after : Router κ) : Prop :=
  ∃ o ∈ m.option, r.downlinks.Queued o.gateway.text m after.downlinks ∧
    ∀ g, (after.gateway g).utilization.txCurrent =
      (r.gateway g).utilization.txCurrent + if g = o.gateway then 1 else 0

structure SentNothing (r after : Router κ) : Prop where
  downlinks : after.downlinks = r.downlinks
  counts : ∀ g, (after.gateway g).utilization.txCurrent = (r.gateway g).utilization.txCurrent

theorem gateway_changeGateway (r : Router κ) (eui g : GatewayEui) (f : Gateway → Gateway) :
    (r.changeGateway eui f).gateway g = if g = eui then f (r.gateway eui) else r.gateway g := by
  rw [gateway, changeGateway, Std.ExtTreeMap.getElem?_insert]
  simp only [Std.compare_eq_iff_eq, eq_comm (a := eui)]
  split <;> rfl

theorem deliver_eq_of_delivers (h : r.Delivers m) : ∃ o ∈ m.option,
    r.downlinks.Queued o.gateway.text m (r.downlinks.send o.gateway.text m).state ∧
      r.deliver m =
        (true, (r.withDownlinks (r.downlinks.send o.gateway.text m).state).countTx o.gateway) := by
  obtain ⟨o, ho, htakes⟩ := h
  obtain ⟨hok, hqueued⟩ := Registry.send_of_takes htakes m
  exact ⟨o, ho, hqueued, by
    simp [deliver, sendDownlink, Option.mem_def.mp ho, hok, Except.toBool]⟩

theorem deliver_of_delivers (h : r.Delivers m) :
    (r.deliver m).1 = true ∧ r.Sent m (r.deliver m).2 := by
  obtain ⟨o, ho, hqueued, hdeliver⟩ := deliver_eq_of_delivers h
  rw [hdeliver]
  refine ⟨rfl, o, ho, hqueued, fun g => ?_⟩
  dsimp only
  rw [countTx, gateway_changeGateway]
  by_cases hg : g = o.gateway
  · subst hg
    simp [Gateway.count, Utilization.addTx, withDownlinks, gateway]
  · simp [hg, withDownlinks, gateway]

theorem deliver_of_not_delivers (h : ¬ r.Delivers m) : r.deliver m = (false, r) := by
  rw [deliver, sendDownlink]
  cases ho : m.option with
  | none => rfl
  | some o =>
    have htakes : ¬ r.downlinks.Takes o.gateway.text := fun htakes => h ⟨o, ho, htakes⟩
    obtain ⟨e, he⟩ := Registry.send_of_not_takes htakes m
    simp only [he]
    rfl

theorem sendDownlink_of_not_delivers (h : ¬ r.Delivers m) : (r.sendDownlink m).state = r :=
  congrArg Prod.snd (deliver_of_not_delivers h)

theorem answer_sendDownlink (r : Router κ) (m : Downlink) :
    (r.sendDownlink m).answer = .ok () ↔ r.Delivers m := by
  have hanswer : (r.deliver m).1 = (r.sendDownlink m).answer.toBool := rfl
  constructor
  · intro hok
    by_contra hrefused
    rw [deliver_of_not_delivers hrefused, hok] at hanswer
    cases hanswer
  · intro hdelivers
    rw [(deliver_of_delivers hdelivers).1] at hanswer
    cases ha : (r.sendDownlink m).answer with
    | ok => rfl
    | error e =>
      rw [ha] at hanswer
      cases hanswer

theorem deliver_frame (r : Router κ) (m : Downlink) : (r.deliver m).2 =
    { r with gateways := (r.deliver m).2.gateways, downlinks := (r.deliver m).2.downlinks } := by
  by_cases hdelivers : r.Delivers m
  · obtain ⟨o, -, -, hdeliver⟩ := deliver_eq_of_delivers hdelivers
    rw [hdeliver]
    rfl
  · rw [deliver_of_not_delivers hdelivers]

/-- An answer that can be accepted: it carries no downlink, or one that can be delivered. -/
def Acceptable (downlinkOf : ρ → Option Downlink) (r : Router κ) (a : Race.Arrival ρ) : Prop :=
  ∀ m ∈ downlinkOf a.answer, r.Delivers m

/-- What a race of these answers comes to for a router, and the router after it. -/
def settle (kind : RequestKind) (downlinkOf : ρ → Option Downlink) (r : Router κ)
    (answers : List (Race.Arrival ρ)) : Except RouterError Unit × Router κ :=
  let (r, tally) := Race.collect deliver downlinkOf r answers
  ((tally.result kind).map fun _ => (), r)

theorem handOver_of_refused {ms : List Downlink} (h : ∀ m ∈ ms, ¬ r.Delivers m) :
    Race.handOver deliver r ms = (ms.map fun _ => false, r) := by
  induction ms with
  | nil => rfl
  | cons m ms ih =>
    -- a refused downlink leaves the router as it was, so the next one meets the same streams
    simp only [Race.handOver, deliver_of_not_delivers (h m (by simp)),
      ih fun n hn => h n (by simp [hn]), List.map_cons]

theorem carried_of_not_acceptable {a : Race.Arrival ρ} (h : ¬ r.Acceptable downlinkOf a) :
    ∃ m, downlinkOf a.answer = some m ∧ ¬ r.Delivers m := by
  simpa [Acceptable] using h

theorem handOver_of_unacceptable {answers : List (Race.Arrival ρ)}
    (h : ∀ a ∈ answers, ¬ r.Acceptable downlinkOf a) :
    (Race.handOver deliver r (Race.downlinks downlinkOf answers)) =
      ((Race.downlinks downlinkOf answers).map fun _ => false, r) := by
  refine handOver_of_refused fun m hm => ?_
  obtain ⟨a, ha, hcarried⟩ := List.mem_filterMap.mp hm
  obtain ⟨m', hm', hrefused⟩ := carried_of_not_acceptable (h a ha)
  obtain rfl : m = m' := Option.some.inj (hcarried.symm.trans hm')
  exact hrefused

theorem allFail_of_unacceptable {answers : List (Race.Arrival ρ)}
    (h : ∀ a ∈ answers, ¬ r.Acceptable downlinkOf a) :
    Race.AllFail deliver downlinkOf r answers := by
  constructor
  · intro a ha
    obtain ⟨m, hm, -⟩ := carried_of_not_acceptable (h a ha)
    exact Option.isSome_iff_exists.mpr ⟨m, hm⟩
  · intro delivered hdelivered
    rw [handOver_of_unacceptable h] at hdelivered
    obtain ⟨-, -, hfalse⟩ := List.mem_map.mp hdelivered
    exact hfalse.symm

theorem settle_of_unacceptable (kind : RequestKind) {answers : List (Race.Arrival ρ)}
    (h : ∀ a ∈ answers, ¬ r.Acceptable downlinkOf a) :
    settle kind downlinkOf r answers = (.error (.notAccepted kind), r) := by
  rw [settle, Race.collect_of_allFail (allFail_of_unacceptable h), handOver_of_unacceptable h]
  rfl

theorem firstAccepted_of_first {earlier : List (Race.Arrival ρ)} {a : Race.Arrival ρ}
    (hearlier : ∀ e ∈ earlier, ¬ r.Acceptable downlinkOf e) (ha : r.Acceptable downlinkOf a)
    (later : List (Race.Arrival ρ)) :
    Race.FirstAccepted deliver downlinkOf r (earlier ++ a :: later) earlier a later where
  split := rfl
  failed := allFail_of_unacceptable hearlier
  accepted m hm := by
    rw [handOver_of_unacceptable hearlier]
    exact (deliver_of_delivers (ha m hm)).1

theorem settle_of_first (kind : RequestKind) {earlier later : List (Race.Arrival ρ)}
    {a : Race.Arrival ρ} (hearlier : ∀ e ∈ earlier, ¬ r.Acceptable downlinkOf e)
    (ha : r.Acceptable downlinkOf a) :
    settle kind downlinkOf r (earlier ++ a :: later) =
      (.ok (), (downlinkOf a.answer).elim r fun m => (r.deliver m).2) := by
  have hfirst := firstAccepted_of_first hearlier ha later
  rw [settle, Race.collect_of_firstAccepted hfirst, Race.downlinks, List.filterMap_append,
    Race.handOver_append, ← Race.downlinks, handOver_of_unacceptable hearlier]
  cases hm : downlinkOf a.answer <;> simp [Race.handOver, Race.Tally.result, Except.map, hm]

theorem unacceptable_or_first (downlinkOf : ρ → Option Downlink) (r : Router κ)
    (answers : List (Race.Arrival ρ)) :
    (∀ a ∈ answers, ¬ r.Acceptable downlinkOf a) ∨
      ∃ earlier a later, answers = earlier ++ a :: later ∧
        (∀ e ∈ earlier, ¬ r.Acceptable downlinkOf e) ∧ r.Acceptable downlinkOf a := by
  classical
  cases hfound : answers.find? fun a => r.Acceptable downlinkOf a with
  | none =>
    left
    simpa using hfound
  | some a =>
    right
    obtain ⟨ha, earlier, later, hsplit, hearlier⟩ := List.find?_eq_some_iff_append.mp hfound
    exact ⟨earlier, a, later, hsplit, by simpa using hearlier, by simpa using ha⟩

end Router

end LorawanRouting
