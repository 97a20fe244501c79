import LorawanRouting.Proofs.Identifier
import LorawanRouting.Proofs.RouterCalls
import Mathlib.Algebra.GroupWithZero.Nat
import Mathlib.Data.UInt

/-!
What gateways count. A frame counts when it is handed in, whatever becomes of it; a downlink counts
for the gateway on whose stream it was queued. The counts are taken modulo 2^64 and split into windows
by ticks, and nothing is lost or counted twice between them.
-/

namespace LorawanRouting

variable {κ ω : Type}

def StreamCall.sends {α : Type} : StreamCall α → Bool
  | .send .. => true
  | _ => false

namespace Registry
open StreamHistory

variable {α : Type} {r : Registry α}

def queueAt (r : Registry α) (n : Nat) : List α := r.channels[n]?.elim [] Channel.queue

def waiting (r : Registry α) (id : String) : List α := r.live[id]?.elim [] r.queueAt

theorem waiting_of_queued {h : StreamHistory α} (hf : r.Follows h) {id : String} {m : α}
    {after : Registry α} (hqueued : r.Queued id m after) (i : String) :
    after.waiting i = r.waiting i ++ if i = id then [m] else [] := by
  obtain ⟨n, c, hn, hc, rfl⟩ := hqueued
  have hlt := (List.getElem?_eq_some_iff.mp hc).1
  by_cases hi : i = id
  · subst hi
    simp only [waiting, hn, Option.elim_some, queueAt, List.getElem?_set_self hlt, hc, if_true]
  · cases hother : r.live[i]? with
    | none => simp [waiting, hother, hi]
    | some k =>
      -- no two identities have a channel in common
      have hne : n ≠ k := by
        intro hsame
        subst hsame
        exact hi (hf.id_unique (mem_registrations_of_live? (hf.live_channel hother))
          (mem_registrations_of_live? (hf.live_channel hn)))
      simp [waiting, queueAt, hother, hi, List.getElem?_set_ne hne]

theorem length_queueAt_le (r : Registry α) {call : StreamCall α}
    (hcall : call.sends = false) (n : Nat) :
    ((call.run r).2.queueAt n).length ≤ (r.queueAt n).length := by
  cases call with
  | send id m => cases hcall
  | activate id =>
    simp only [StreamCall.run, activate]
    split
    · exact Nat.le_refl _
    · simp only [queueAt, List.getElem?_append]
      split
      · exact Nat.le_refl _
      · rw [List.getElem?_singleton]
        split <;> exact Nat.zero_le _
  | deactivate id =>
    simp only [StreamCall.run, deactivate]
    split
    · exact Nat.le_refl _
    · simp only [queueAt, List.getElem?_modify]
      split <;> cases r.channels[n]? <;> exact Nat.le_refl _
  | receive receiver =>
    simp only [StreamCall.run, receive]
    cases hc : r.channels[receiver.channel]? with
    | none => exact Nat.le_refl _
    | some c =>
      dsimp only
      cases hqueue : c.queue with
      | nil => exact Nat.le_refl _
      | cons m rest =>
        have hlt := (List.getElem?_eq_some_iff.mp hc).1
        by_cases hn : receiver.channel = n
        · subst hn
          simp [queueAt, hc, hqueue, List.getElem?_set_self hlt]
        · simp [queueAt, List.getElem?_set_ne hn]
  | drop receiver =>
    simp only [StreamCall.run, drop, queueAt, List.getElem?_modify]
    split
    · cases r.channels[n]? <;> exact Nat.zero_le _
    · cases r.channels[n]? <;> exact Nat.le_refl _

theorem live_call (r : Registry α) (call : StreamCall α) (i : String) :
    (call.run r).2.live[i]? = r.live[i]? ∨ (call.run r).2.waiting i = [] := by
  cases call with
  | activate id =>
    simp only [StreamCall.run, activate]
    split
    · exact Or.inl rfl
    · by_cases hi : id = i
      · subst hi
        simp [waiting, queueAt]
      · simp [Std.ExtTreeMap.getElem?_insert, hi]
  | deactivate id =>
    simp only [StreamCall.run, deactivate]
    split
    · exact Or.inl rfl
    · by_cases hi : id = i
      · subst hi
        simp [waiting]
      · simp [Std.ExtTreeMap.getElem?_erase, hi]
  | send id m =>
    simp only [StreamCall.run, send]
    split
    · exact Or.inl rfl
    · split
      · exact Or.inl rfl
      · split_ifs <;> exact Or.inl rfl
  | receive receiver =>
    simp only [StreamCall.run, receive]
    split
    · exact Or.inl rfl
    · split <;> exact Or.inl rfl
  | drop receiver => exact Or.inl rfl

theorem length_waiting_le (r : Registry α) {call : StreamCall α}
    (hcall : call.sends = false) (i : String) :
    ((call.run r).2.waiting i).length ≤ (r.waiting i).length := by
  rcases live_call r call i with hsame | hempty
  · rw [waiting, waiting, hsame]
    cases r.live[i]? with
    | none => exact Nat.le_refl _
    | some n => exact length_queueAt_le r hcall n
  · rw [hempty]
    exact Nat.zero_le _

end Registry

def Utilization.plus (u : Utilization) (received sent : Nat) : Utilization :=
  { u with rxCurrent := u.rxCurrent + .ofNat received, txCurrent := u.txCurrent + .ofNat sent }

@[simp] theorem Utilization.plus_zero (u : Utilization) : u.plus 0 0 = u := by
  simp [plus]

def RouterCall.closes (g : GatewayEui) : RouterCall κ ω → Bool
  | .tick eui => eui = g
  | _ => false

def RouterCall.requestsFrom (g : GatewayEui) (c : RouterCall κ ω) : Nat :=
  if c.requester? = some g then 1 else 0

def RouterCall.reported? (g : GatewayEui) : RouterCall κ ω → Option GatewayStatus
  | .report eui status => if eui = g then some status else none
  | _ => none

def RouterCall.changed (g : GatewayEui) (c : RouterCall κ ω) (sent : Nat) (before : Gateway) :
    Gateway :=
  { before with
    status := (c.reported? g).or before.status
    utilization :=
      if c.closes g then before.utilization.tick
      else before.utilization.plus (c.requestsFrom g) sent }

theorem RouterCall.idle_of_gateway?_ne {c : RouterCall κ ω} {g : GatewayEui}
    (h : c.gateway? ≠ some g) :
    c.reported? g = none ∧ c.closes g = false ∧ c.requestsFrom g = 0 := by
  cases c with
  | report eui | uplink _ _ eui | activate _ _ eui | tick eui =>
    have hne : eui ≠ g := fun hsame => h (congrArg some hsame)
    simp [reported?, closes, requestsFrom, requester?, hne]
  | subscribe | unsubscribe | downlink | receive | drop => exact ⟨rfl, rfl, rfl⟩

namespace Router

variable {r s : Router κ} {m : Downlink}

/-- How many more downlinks wait for a gateway than before. -/
def queuedFor (g : GatewayEui) (before after : Router κ) : Nat :=
  (after.downlinks.waiting g.text).length - (before.downlinks.waiting g.text).length

theorem queuedFor_of_downlinks (g : GatewayEui) (h : s.downlinks = r.downlinks) :
    queuedFor g r s = 0 := by
  rw [queuedFor, h, Nat.sub_self]

theorem queuedFor_of_call (g : GatewayEui) (call : StreamCall Downlink)
    (hcall : call.sends = false) (h : s.downlinks = (call.run r.downlinks).2) :
    queuedFor g r s = 0 := by
  rw [queuedFor, h]
  exact Nat.sub_eq_zero_of_le (Registry.length_waiting_le r.downlinks hcall g.text)

theorem deliver_counts {h : StreamHistory Downlink} (hf : r.downlinks.Follows h)
    (hdelivers : r.Delivers m) : ∃ o ∈ m.option, ∀ g,
      queuedFor g r (r.deliver m).2 = (if g = o.gateway then 1 else 0) ∧
      (r.deliver m).2.gateway g =
        (r.gateway g).count (·.plus 0 (queuedFor g r (r.deliver m).2)) := by
  obtain ⟨o, ho, hqueued, hdeliver⟩ := deliver_eq_of_delivers hdelivers
  refine ⟨o, ho, fun g => ?_⟩
  have hcount : queuedFor g r (r.deliver m).2 = if g = o.gateway then 1 else 0 := by
    have hwaiting := Registry.waiting_of_queued hf hqueued g.text
    rw [queuedFor, hdeliver]
    dsimp only [countTx, changeGateway, withDownlinks]
    rw [hwaiting, List.length_append, Nat.add_sub_cancel_left]
    simp only [Identifier.text_injective.eq_iff]
    split <;> rfl
  refine ⟨hcount, ?_⟩
  rw [hcount, hdeliver, countTx, gateway_changeGateway]
  by_cases hg : g = o.gateway
  · subst hg
    simp [Gateway.count, Utilization.addTx, Utilization.plus, withDownlinks, gateway]
  · simp [hg, Gateway.count, withDownlinks, gateway]

theorem gateway_of_prepared {eui : GatewayEui} (hs : r.Prepared eui s) (g : GatewayEui) :
    s.gateway g = (r.gateway g).count (·.plus (if eui = g then 1 else 0) 0) := by
  obtain ⟨connections, rfl⟩ := hs
  change (r.countRx eui).gateway g = _
  rw [countRx, gateway_changeGateway]
  by_cases hg : g = eui
  · subst hg
    simp [Gateway.count, Utilization.addRx, Utilization.plus]
  · simp [hg, Ne.symm hg, Gateway.count]

theorem gateway_of_requester {h : StreamHistory Downlink} (hf : r.downlinks.Follows h)
    (c : RouterCall κ ω) {eui : GatewayEui} (hc : c.requester? = some eui) (g : GatewayEui) :
    (c.run r).2.gateway g =
      (r.gateway g).count (·.plus (c.requestsFrom g) (queuedFor g r (c.run r).2)) := by
  obtain ⟨s, hprepared, hrun⟩ := run_of_requester c r hc
  have hdownlinks : s.downlinks = r.downlinks := by
    obtain ⟨connections, rfl⟩ := hprepared
    rfl
  have hrequests : c.requestsFrom g = if eui = g then 1 else 0 := by
    simp only [RouterCall.requestsFrom, hc, Option.some.injEq]
  have hsent : (c.run r).2.gateway g = (s.gateway g).count (·.plus 0 (queuedFor g r (c.run r).2)) := by
    rcases hrun with hrun | ⟨m, hdelivers, hrun⟩
    · rw [hrun, queuedFor_of_downlinks g hdownlinks]
      simp [Gateway.count]
    · obtain ⟨o, -, hcounts⟩ := deliver_counts (hdownlinks ▸ hf) hdelivers
      rw [hrun, (hcounts g).2, queuedFor, queuedFor, hdownlinks]
  rw [hsent, gateway_of_prepared hprepared, hrequests]
  simp [Gateway.count, Utilization.plus]

theorem gateway_run {h : StreamHistory Downlink} (hf : r.downlinks.Follows h) (c : RouterCall κ ω)
    (g : GatewayEui) :
    (c.run r).2.gateway g = c.changed g (queuedFor g r (c.run r).2) (r.gateway g) := by
  have hrequest : ∀ eui, c.requester? = some eui → _ := fun eui hc => gateway_of_requester hf c hc g
  have hidle : c.reported? g = none → c.closes g = false → c.requestsFrom g = 0 →
      queuedFor g r (c.run r).2 = 0 → (c.run r).2.gateway g = r.gateway g →
      (c.run r).2.gateway g = c.changed g (queuedFor g r (c.run r).2) (r.gateway g) := by
    intro hreported hcloses hrequests hqueued hsame
    rw [hsame, hqueued, RouterCall.changed, hreported, hcloses, hrequests]
    simp
  cases c with
  | report eui status =>
    have hqueued : queuedFor g r ((RouterCall.report eui status : RouterCall κ ω).run r).2 = 0 :=
      queuedFor_of_downlinks g rfl
    have hchanged := gateway_changeGateway r eui g (·.report status)
    by_cases hg : g = eui
    · subst hg
      rw [if_pos rfl] at hchanged
      refine hchanged.trans ?_
      rw [hqueued]
      simp [RouterCall.changed, RouterCall.reported?, RouterCall.closes, RouterCall.requestsFrom,
        RouterCall.requester?, Gateway.report]
    · rw [if_neg hg] at hchanged
      exact hidle (if_neg (Ne.symm hg)) rfl rfl hqueued hchanged
  | tick eui =>
    have hchanged := gateway_changeGateway r eui g (·.count .tick)
    by_cases hg : g = eui
    · subst hg
      rw [if_pos rfl] at hchanged
      refine hchanged.trans ?_
      simp [RouterCall.changed, RouterCall.reported?, RouterCall.closes, Gateway.count]
    · rw [if_neg hg] at hchanged
      exact hidle rfl (by simp [RouterCall.closes, Ne.symm hg]) rfl (queuedFor_of_downlinks g rfl) hchanged
  | uplink b w eui frame => exact hrequest eui rfl
  | activate b w eui request => exact hrequest eui rfl
  | downlink m =>
    by_cases hdelivers : r.Delivers m
    · obtain ⟨o, -, hcounts⟩ := deliver_counts hf hdelivers
      exact (hcounts g).2
    · have hstate := sendDownlink_of_not_delivers hdelivers
      exact hidle rfl rfl rfl (queuedFor_of_downlinks g (congrArg downlinks hstate))
        (congrArg (gateway · g) hstate)
  | subscribe eui =>
    exact hidle rfl rfl rfl (queuedFor_of_call g (.activate eui.text) rfl rfl) rfl
  | unsubscribe eui =>
    exact hidle rfl rfl rfl (queuedFor_of_call g (.deactivate eui.text) rfl rfl) rfl
  | receive receiver =>
    exact hidle rfl rfl rfl (queuedFor_of_call g (.receive receiver) rfl rfl) rfl
  | drop receiver =>
    exact hidle rfl rfl rfl (queuedFor_of_call g (.drop receiver) rfl rfl) rfl

/-- Calls with the routers that they found, the latest first. -/
abbrev Visits (κ ω : Type) := List (Router κ × RouterCall κ ω)

/-- How many requests came from a gateway, and how many downlinks were queued for it. -/
def traffic (g : GatewayEui) (visits : Visits κ ω) : Nat × Nat :=
  ((visits.map fun e => e.2.requestsFrom g).sum,
    (visits.map fun e => queuedFor g e.1 (e.2.run e.1).2).sum)

def currentWindow (g : GatewayEui) (visits : Visits κ ω) : Nat × Nat :=
  traffic g (visits.takeWhile fun e => !e.2.closes g)

/-- The traffic from each tick to the next one, the latest first. -/
def closedWindows (g : GatewayEui) : Visits κ ω → List (Nat × Nat)
  | [] => []
  | e :: past =>
    if e.2.closes g then currentWindow g past :: closedWindows g past else closedWindows g past

def published (g : GatewayEui) (visits : Visits κ ω) : List (UInt64 × UInt64) :=
  (visits.filter (·.2.closes g)).filterMap fun e => (e.2.run e.1).1.totals?

theorem eq_tick_of_closes {c : RouterCall κ ω} {g : GatewayEui} (h : c.closes g = true) :
    c = .tick g := by
  cases c with
  | tick eui => rw [of_decide_eq_true h]
  | report | uplink | activate | downlink | subscribe | unsubscribe | receive | drop => cases h

theorem traffic_cons (g : GatewayEui) (e : Router κ × RouterCall κ ω) (past : Visits κ ω) :
    traffic g (e :: past) = (e.2.requestsFrom g + (traffic g past).1,
      queuedFor g e.1 (e.2.run e.1).2 + (traffic g past).2) := rfl

theorem traffic_cons_of_closes {g : GatewayEui} {e : Router κ × RouterCall κ ω}
    (h : e.2.closes g = true) (past : Visits κ ω) : traffic g (e :: past) = traffic g past := by
  obtain ⟨r, c⟩ := e
  obtain rfl := eq_tick_of_closes h
  have hqueued : queuedFor g r ((RouterCall.tick g : RouterCall κ ω).run r).2 = 0 :=
    queuedFor_of_downlinks g rfl
  simp [traffic_cons, hqueued, RouterCall.requestsFrom, RouterCall.requester?]

theorem currentWindow_cons_of_closes {g : GatewayEui} {e : Router κ × RouterCall κ ω}
    (h : e.2.closes g = true) (past : Visits κ ω) : currentWindow g (e :: past) = (0, 0) := by
  simp [currentWindow, h, traffic]

theorem currentWindow_cons {g : GatewayEui} {e : Router κ × RouterCall κ ω}
    (h : e.2.closes g = false) (past : Visits κ ω) :
    currentWindow g (e :: past) = (e.2.requestsFrom g + (currentWindow g past).1,
      queuedFor g e.1 (e.2.run e.1).2 + (currentWindow g past).2) := by
  rw [currentWindow, List.takeWhile_cons_of_pos (by rw [h]; rfl), traffic_cons]
  rfl

theorem sum_windows (g : GatewayEui) (visits : Visits κ ω) :
    ((closedWindows g visits).map Prod.fst).sum + (currentWindow g visits).1 = (traffic g visits).1 ∧
      ((closedWindows g visits).map Prod.snd).sum + (currentWindow g visits).2 =
        (traffic g visits).2 := by
  induction visits with
  | nil => exact ⟨rfl, rfl⟩
  | cons e past ih =>
    obtain ⟨hrequests, hqueued⟩ := ih
    cases hcloses : e.2.closes g with
    | true =>
      -- the window that was current is now the latest closed one
      rw [traffic_cons_of_closes hcloses, currentWindow_cons_of_closes hcloses, closedWindows,
        if_pos hcloses, ← hrequests, ← hqueued]
      simp only [List.map_cons, List.sum_cons, Nat.add_zero]
      exact ⟨Nat.add_comm _ _, Nat.add_comm _ _⟩
    | false =>
      rw [traffic_cons, currentWindow_cons hcloses, closedWindows, hcloses,
        if_neg Bool.false_ne_true, ← hrequests, ← hqueued]
      exact ⟨Nat.add_left_comm _ _ _, Nat.add_left_comm _ _ _⟩

structure Accounts (g : GatewayEui) (r : Router κ) (visits : Visits κ ω) : Prop where
  rx : (r.gateway g).utilization.rxCurrent = .ofNat (currentWindow g visits).1
  tx : (r.gateway g).utilization.txCurrent = .ofNat (currentWindow g visits).2
  last : (r.gateway g).utilization.last = (published g visits).head?.getD (0, 0)
  windows : published g visits =
    (closedWindows g visits).map fun window => (.ofNat window.1, .ofNat window.2)

theorem accounts_new (g : GatewayEui) (requestTimeout downlinkBuffer : Nat) :
    Accounts g (new requestTimeout downlinkBuffer : Router κ) ([] : Visits κ ω) := by
  have hfresh : (new requestTimeout downlinkBuffer : Router κ).gateway g = .new g := by
    simp [gateway, new]
  exact ⟨by rw [hfresh]; rfl, by rw [hfresh]; rfl, by rw [hfresh]; rfl, rfl⟩

theorem published_cons_of_closes {g : GatewayEui} {c : RouterCall κ ω} (h : c.closes g = true)
    (r : Router κ) (past : Visits κ ω) :
    published g ((r, c) :: past) = (r.gateway g).utilization.tick.last :: published g past := by
  obtain rfl := eq_tick_of_closes h
  have htick : (r.tick g).gateway g = (r.gateway g).count .tick := by
    rw [tick, gateway_changeGateway, if_pos rfl]
  simp [published, h, RouterCall.run, RouterAnswer.totals?, htick, Gateway.count]

theorem Accounts.run {g : GatewayEui} {visits : Visits κ ω} (ha : Accounts g r visits)
    {h : StreamHistory Downlink} (hf : r.downlinks.Follows h) (c : RouterCall κ ω) :
    Accounts g (c.run r).2 ((r, c) :: visits) := by
  obtain ⟨hrx, htx, hlast, hwindows⟩ := ha
  have hutilization := congrArg Gateway.utilization (gateway_run hf c g)
  simp only [RouterCall.changed] at hutilization
  cases hcloses : c.closes g with
  | true =>
    rw [hcloses, if_pos rfl] at hutilization
    have hcurrent := currentWindow_cons_of_closes (e := (r, c)) hcloses visits
    have htotals := published_cons_of_closes hcloses r visits
    refine ⟨?_, ?_, ?_, ?_⟩
    · rw [hutilization, hcurrent]
      rfl
    · rw [hutilization, hcurrent]
      rfl
    · rw [hutilization, htotals]
      rfl
    · rw [htotals, hwindows, Utilization.tick, Utilization.last, hrx, htx, closedWindows,
        if_pos hcloses, List.map_cons]
  | false =>
    rw [hcloses, if_neg Bool.false_ne_true] at hutilization
    have hcurrent := currentWindow_cons (e := (r, c)) hcloses visits
    have hsame : published g ((r, c) :: visits) = published g visits := by
      simp [published, hcloses]
    refine ⟨?_, ?_, ?_, ?_⟩
    · rw [hutilization, hcurrent, Utilization.plus, hrx, ← UInt64.ofNat_add, Nat.add_comm]
    · rw [hutilization, hcurrent, Utilization.plus, htx, ← UInt64.ofNat_add, Nat.add_comm]
    · rw [hutilization, hsame, ← hlast]
      rfl
    · rw [hsame, hwindows, closedWindows, hcloses, if_neg Bool.false_ne_true]

theorem accounts_after (g : GatewayEui) (requestTimeout downlinkBuffer : Nat)
    (cs : List (RouterCall κ ω)) :
    let start : Router κ := new requestTimeout downlinkBuffer
    Accounts g (start.after cs) (Runs.visits RouterCall.run start cs) := by
  intro start
  induction cs using List.reverseRecOn with
  | nil => exact accounts_new g requestTimeout downlinkBuffer
  | append_singleton cs c ih =>
    obtain ⟨h, hf⟩ := follows_after requestTimeout downlinkBuffer cs
    rw [after_concat, Runs.visits_concat]
    exact ih.run hf c

theorem sum_requestsFrom (g : GatewayEui) (cs : List (RouterCall κ ω)) :
    (cs.map (·.requestsFrom g)).sum = cs.countP fun c => c.requester? = some g := by
  induction cs with
  | nil => rfl
  | cons c cs ih =>
    rw [List.map_cons, List.sum_cons, ih, List.countP_cons, RouterCall.requestsFrom, Nat.add_comm]
    simp only [decide_eq_true_eq]

theorem requests_visits (g : GatewayEui) (start : Router κ) (cs : List (RouterCall κ ω)) :
    (traffic g (Runs.visits RouterCall.run start cs)).1 =
      cs.countP fun c => c.requester? = some g := by
  have hvisits : ((Runs.visits RouterCall.run start cs).map fun e => e.2.requestsFrom g) =
      (cs.map (·.requestsFrom g)).reverse := by
    rw [← List.map_reverse, ← Runs.map_snd_visits cs, List.map_map]
    rfl
  rw [traffic, hvisits, List.sum_reverse]
  exact sum_requestsFrom g cs

theorem sum_ofNat (ns : List Nat) : (ns.map UInt64.ofNat).sum = .ofNat ns.sum := by
  induction ns with
  | nil => rfl
  | cons n ns ih => rw [List.map_cons, List.sum_cons, List.sum_cons, ih, UInt64.ofNat_add]

/-- What the gateways of a router have counted after any calls, and what a call leaves uncounted. -/
theorem traffic_is_counted (requestTimeout downlinkBuffer : Nat) (cs : List (RouterCall κ ω))
    (g : GatewayEui) :
    let start : Router κ := new requestTimeout downlinkBuffer
    let r := start.after cs
    let visits := Runs.visits RouterCall.run start cs
    let u := (r.gateway g).utilization
    ((published g visits).map Prod.fst).sum + u.rxCurrent =
        .ofNat (cs.countP fun c => c.requester? = some g) ∧
    ((published g visits).map Prod.snd).sum + u.txCurrent =
        .ofNat (traffic g visits).2 ∧
    u.last = (published g visits).head?.getD (0, 0) ∧
    published g visits =
      ((closedWindows g visits).map fun window => (.ofNat window.1, .ofNat window.2)) ∧
    (∀ m e, (r.sendDownlink m).answer = .error e → (r.sendDownlink m).state = r) ∧
    (∀ m, queuedFor g r (r.sendDownlink m).state ≤ 1 ∧
      (queuedFor g r (r.sendDownlink m).state = 1 ↔
        (r.sendDownlink m).answer = .ok () ∧ m.option.map (·.gateway) = some g)) ∧
    ∀ c : RouterCall κ ω, c.gateway? ≠ some g →
      let next := (c.run r).2.gateway g
      next.status = (r.gateway g).status ∧ next.utilization.rxCurrent = u.rxCurrent ∧
        next.utilization.last = u.last := by
  intro start r visits u
  obtain ⟨hrx, htx, hlast, hwindows⟩ := accounts_after g requestTimeout downlinkBuffer cs
  obtain ⟨h, hf⟩ := follows_after requestTimeout downlinkBuffer cs
  obtain ⟨hrequests, hqueued⟩ := sum_windows g visits
  refine ⟨?_, ?_, hlast, hwindows, fun m e herror => ?_, fun m => ?_, fun c hc => ?_⟩
  · rw [hwindows, List.map_map, hrx, ← requests_visits g start cs, ← hrequests, UInt64.ofNat_add,
      ← sum_ofNat, List.map_map]
    rfl
  · rw [hwindows, List.map_map, htx, ← hqueued, UInt64.ofNat_add, ← sum_ofNat, List.map_map]
    rfl
  · have hrefused : ¬ r.Delivers m := by
      rw [← answer_sendDownlink, herror]
      exact nofun
    exact sendDownlink_of_not_delivers hrefused
  · rw [answer_sendDownlink]
    by_cases hdelivers : r.Delivers m
    · obtain ⟨o, ho, hcounts⟩ := deliver_counts hf hdelivers
      have hqueued : queuedFor g r (r.sendDownlink m).state = _ := (hcounts g).1
      rw [hqueued, Option.mem_def.mp ho]
      by_cases hg : g = o.gateway
      · simp [hg, hdelivers]
      · simp [hg, Ne.symm hg]
    · rw [sendDownlink_of_not_delivers hdelivers, queuedFor_of_downlinks g rfl]
      simp [hdelivers]
  · obtain ⟨hreported, hcloses, hnone⟩ := RouterCall.idle_of_gateway?_ne hc
    rw [gateway_run hf c g, RouterCall.changed, hreported, hcloses, hnone]
    exact ⟨rfl, UInt64.add_zero _, rfl⟩

end Router

end LorawanRouting
