import LorawanRouting.Stream.Registry
import LorawanRouting.Proofs.Runs
import Mathlib.Data.List.Nodup

/-!
What consumers get from a registry of streams, told from the history of calls alone. A receiving end
gets the messages that were queued for its stream while that was the live one of its identity, in
order and each once, whatever other streams the identity has had before or after.
-/

namespace LorawanRouting

inductive StreamCall (α : Type)
  | activate (id : String)
  | deactivate (id : String)
  | send (id : String) (m : α)
  | receive (receiver : Receiver)
  | drop (receiver : Receiver)

inductive StreamAnswer (α : Type)
  | opened (result : Except RegistryError Receiver)
  | done (result : Except RegistryError Unit)
  | found (received : Received α)
  | dropped

variable {α : Type}

def StreamCall.run (r : Registry α) : StreamCall α → StreamAnswer α × Registry α
  | .activate id =>
    let reply := r.activate id
    (.opened reply.answer, reply.state)
  | .deactivate id =>
    let reply := r.deactivate id
    (.done reply.answer, reply.state)
  | .send id m =>
    let reply := r.send id m
    (.done reply.answer, reply.state)
  | .receive receiver =>
    let (found, r) := r.receive receiver
    (.found found, r)
  | .drop receiver => (.dropped, r.drop receiver)

inductive StreamEvent (α : Type)
  | opened (id : String) (receiver : Receiver)
  | closed (id : String)
  | queued (id : String) (m : α)
  | taken (receiver : Receiver) (m : α)
  | dropped (receiver : Receiver)

def StreamEvent.of? : StreamCall α × StreamAnswer α → Option (StreamEvent α)
  | (.activate id, .opened (.ok receiver)) => some (.opened id receiver)
  | (.deactivate id, .done (.ok ())) => some (.closed id)
  | (.send id m, .done (.ok ())) => some (.queued id m)
  | (.receive receiver, .found (.message m)) => some (.taken receiver m)
  | (.drop receiver, .dropped) => some (.dropped receiver)
  | _ => none

/-- The events of a registry, the latest first. -/
abbrev StreamHistory (α : Type) := List (StreamEvent α)

namespace StreamHistory

def of (r : Registry α) (cs : List (StreamCall α)) : StreamHistory α :=
  (Runs.log StreamCall.run r cs).filterMap StreamEvent.of?

/-- The receiving end of the stream of an identity, if it was opened and not closed since. -/
def live? (id : String) : StreamHistory α → Option Receiver
  | [] => none
  | .opened i receiver :: past => if i = id then some receiver else live? id past
  | .closed i :: past => if i = id then none else live? id past
  | .queued .. :: past | .taken .. :: past | .dropped _ :: past => live? id past

def registrations : StreamHistory α → List (String × Receiver)
  | [] => []
  | .opened id receiver :: past => registrations past ++ [(id, receiver)]
  | .closed _ :: past | .queued .. :: past | .taken .. :: past | .dropped _ :: past =>
    registrations past

/-- The messages queued while a stream was the live one of its identity, the earliest first. -/
def accepted (receiver : Receiver) : StreamHistory α → List α
  | [] => []
  | .queued id m :: past =>
    if live? id past = some receiver then accepted receiver past ++ [m] else accepted receiver past
  | .opened .. :: past | .closed _ :: past | .taken .. :: past | .dropped _ :: past =>
    accepted receiver past

def received (receiver : Receiver) : StreamHistory α → List α
  | [] => []
  | .taken other m :: past =>
    if other = receiver then received receiver past ++ [m] else received receiver past
  | .opened .. :: past | .closed _ :: past | .queued .. :: past | .dropped _ :: past =>
    received receiver past

def gaveUp (receiver : Receiver) : StreamHistory α → Bool
  | [] => false
  | .opened _ other :: past => if other = receiver then false else gaveUp receiver past
  | .dropped other :: past => if other = receiver then true else gaveUp receiver past
  | .closed _ :: past | .queued .. :: past | .taken .. :: past => gaveUp receiver past

theorem of_concat (r : Registry α) (cs : List (StreamCall α)) (c : StreamCall α) :
    of r (cs ++ [c]) = (StreamEvent.of? (c, (c.run (Runs.run StreamCall.run r cs).2).1)).toList ++
      of r cs := by
  rw [of, Runs.log_concat, List.filterMap_cons]
  cases StreamEvent.of? (c, (c.run (Runs.run StreamCall.run r cs).2).1) <;> rfl

theorem mem_registrations_of_live? {id : String} {receiver : Receiver} {h : StreamHistory α}
    (hlive : live? id h = some receiver) : (id, receiver) ∈ registrations h := by
  induction h with
  | nil => cases hlive
  | cons e past ih =>
    cases e with
    | opened i other =>
      simp only [live?] at hlive
      split at hlive
      case isTrue hi =>
        obtain rfl := Option.some.inj hlive
        simp [registrations, hi]
      case isFalse => simp [registrations, ih hlive]
    | closed i =>
      simp only [live?] at hlive
      split at hlive
      · cases hlive
      · exact ih hlive
    | queued | taken | dropped => exact ih hlive

end StreamHistory

namespace Registry
open StreamHistory

structure Serves (capacity : Nat) (h : StreamHistory α) (receiver : Receiver) (c : Channel α) :
    Prop where
  sender : c.hasSender = true ↔ ∃ id, live? id h = some receiver
  held : c.hasReceiver = !gaveUp receiver h
  bounded : c.queue.length ≤ capacity
  kept : gaveUp receiver h = false → received receiver h ++ c.queue = accepted receiver h
  lost : gaveUp receiver h = true → c.queue = [] ∧ received receiver h <+: accepted receiver h

structure Follows (r : Registry α) (h : StreamHistory α) : Prop where
  live : ∀ id : String, r.live[id]? = (live? id h).map Receiver.channel
  opened : (registrations h).map (fun e => e.2.channel) = List.range r.channels.length
  serves : ∀ (n : Nat) c, r.channels[n]? = some c → Serves r.capacity h ⟨n⟩ c
  unopened : ∀ n, r.channels.length ≤ n → received ⟨n⟩ h = [] ∧ accepted ⟨n⟩ h = []

variable {r : Registry α} {h : StreamHistory α}

theorem follows_new (capacity : Nat) : (new capacity : Registry α).Follows [] where
  live id := by simp [new, live?]
  opened := rfl
  serves n c hc := by simp [new] at hc
  unopened n _ := ⟨rfl, rfl⟩

theorem Follows.channel_lt (hf : r.Follows h) {id : String} {receiver : Receiver}
    (hreg : (id, receiver) ∈ registrations h) : receiver.channel < r.channels.length := by
  have hmem : receiver.channel ∈ (registrations h).map fun e => e.2.channel :=
    List.mem_map.mpr ⟨_, hreg, rfl⟩
  rw [hf.opened] at hmem
  exact List.mem_range.mp hmem

theorem Follows.serves_registered (hf : r.Follows h) {id : String} {receiver : Receiver}
    (hreg : (id, receiver) ∈ registrations h) :
    ∃ c, r.channels[receiver.channel]? = some c ∧ Serves r.capacity h receiver c :=
  ⟨_, List.getElem?_eq_getElem (hf.channel_lt hreg), hf.serves receiver.channel _ (by simp)⟩

theorem Follows.id_unique (hf : r.Follows h) {id id' : String} {receiver : Receiver}
    (hreg : (id, receiver) ∈ registrations h) (hreg' : (id', receiver) ∈ registrations h) :
    id = id' := by
  have hnodup : ((registrations h).map fun e => e.2.channel).Nodup := by
    rw [hf.opened]
    exact List.nodup_range
  exact congrArg Prod.fst (List.inj_on_of_nodup_map hnodup hreg hreg' rfl)

theorem Follows.live_channel (hf : r.Follows h) {id : String} {n : Nat} (hn : r.live[id]? = some n) :
    live? id h = some ⟨n⟩ := by
  rw [hf.live, Option.map_eq_some_iff] at hn
  obtain ⟨receiver, hreceiver, rfl⟩ := hn
  exact hreceiver

structure Apart (e : StreamEvent α) (h : StreamHistory α) (receiver : Receiver) : Prop where
  gaveUp : gaveUp receiver (e :: h) = gaveUp receiver h
  received : received receiver (e :: h) = received receiver h
  accepted : accepted receiver (e :: h) = accepted receiver h

theorem Serves.of_apart {capacity : Nat} {receiver : Receiver} {c : Channel α} {e : StreamEvent α}
    (hs : Serves capacity h receiver c) (hapart : Apart e h receiver)
    (hlive : (∃ id, live? id (e :: h) = some receiver) ↔ ∃ id, live? id h = some receiver) :
    Serves capacity (e :: h) receiver c := by
  obtain ⟨hsender, hheld, hbounded, hkept, hlost⟩ := hs
  obtain ⟨hgave, hreceived, haccepted⟩ := hapart
  constructor
  · rw [hlive, hsender]
  · rw [hgave, hheld]
  · exact hbounded
  · rw [hgave, hreceived, haccepted]
    exact hkept
  · rw [hgave, hreceived, haccepted]
    exact hlost

theorem Follows.change (hf : r.Follows h) {n : Nat} {channels : List (Channel α)}
    {e : StreamEvent α} (hlength : channels.length = r.channels.length)
    (hothers : ∀ k, k ≠ n → channels[k]? = r.channels[k]? ∧ Apart e h ⟨k⟩)
    (hlive : ∀ id, live? id (e :: h) = live? id h)
    (hregistrations : registrations (e :: h) = registrations h)
    (hunopened : r.channels.length ≤ n →
      received ⟨n⟩ (e :: h) = received ⟨n⟩ h ∧ accepted ⟨n⟩ (e :: h) = accepted ⟨n⟩ h)
    (hserves : ∀ c, channels[n]? = some c → Serves r.capacity (e :: h) ⟨n⟩ c) :
    Follows { r with channels } (e :: h) := by
  constructor
  · intro id
    rw [hlive]
    exact hf.live id
  · rw [hregistrations, hf.opened, hlength]
  · intro k c hc
    by_cases hk : k = n
    · subst hk
      exact hserves c hc
    · obtain ⟨hsame, hapart⟩ := hothers k hk
      exact (hf.serves k c (hsame ▸ hc)).of_apart hapart (by simp only [hlive])
  -- the event may be about a channel that is not there yet
  · intro k hlt
    rw [hlength] at hlt
    obtain ⟨hnothing, hnone⟩ := hf.unopened k hlt
    by_cases hk : k = n
    · subst hk
      rw [(hunopened hlt).1, (hunopened hlt).2]
      exact ⟨hnothing, hnone⟩
    · obtain ⟨-, -, hreceived, haccepted⟩ := hothers k hk
      rw [hreceived, haccepted]
      exact ⟨hnothing, hnone⟩

theorem Follows.activate (hf : r.Follows h) {id : String} (hid : r.live[id]? = none) :
    Follows { r with
      live := r.live.insert id r.channels.length
      channels := r.channels ++ [⟨[], true, true⟩] } (.opened id ⟨r.channels.length⟩ :: h) := by
  have hnone : live? id h = none := by
    have hlive := hf.live id
    rw [hid] at hlive
    exact Option.map_eq_none_iff.mp hlive.symm
  -- the history may have named the new channel before, but nothing went through it
  obtain ⟨hreceived, haccepted⟩ := hf.unopened _ (Nat.le_refl r.channels.length)
  constructor
  · intro i
    rw [Std.ExtTreeMap.getElem?_insert]
    by_cases hi : id = i
    · simp [live?, hi]
    · simp [live?, hi, hf.live]
  · simp [registrations, hf.opened, List.range_succ]
  · intro n c hc
    rw [List.getElem?_append] at hc
    split at hc
    case isTrue hn =>
      have hne : ¬ (⟨r.channels.length⟩ : Receiver) = ⟨n⟩ := by
        intro heq
        cases heq
        omega
      refine (hf.serves n c hc).of_apart ⟨by simp [gaveUp, hne], rfl, rfl⟩ ?_
      refine exists_congr fun i => ?_
      by_cases hi : id = i
      · subst hi
        simp [live?, hne, hnone]
      · simp [live?, hi]
    case isFalse hn =>
      rw [List.getElem?_singleton] at hc
      split at hc
      case isFalse => cases hc
      case isTrue hzero =>
        obtain rfl := Option.some.inj hc
        obtain rfl : n = r.channels.length := by omega
        constructor
        · exact ⟨fun _ => ⟨id, by simp [live?]⟩, fun _ => rfl⟩
        · simp [gaveUp]
        · exact Nat.zero_le _
        · intro _
          simp only [received, accepted, hreceived, haccepted, List.append_nil]
        · simp [gaveUp]
  · intro n hn
    rw [List.length_append, List.length_singleton] at hn
    exact hf.unopened n (by omega)

theorem Follows.deactivate (hf : r.Follows h) {id : String} {n : Nat} (hid : r.live[id]? = some n) :
    Follows { r with
      live := r.live.erase id
      channels := r.channels.modify n fun c => { c with hasSender := false } }
      (.closed id :: h) := by
  have hlive := hf.live_channel hid
  constructor
  · intro i
    rw [Std.ExtTreeMap.getElem?_erase]
    by_cases hi : id = i
    · simp [live?, hi]
    · simp [live?, hi, hf.live]
  · simp only [registrations, hf.opened, List.length_modify]
  · intro k c hc
    rw [List.getElem?_modify] at hc
    by_cases hk : n = k
    · subst hk
      obtain ⟨c₀, hc₀, rfl⟩ : ∃ c₀, r.channels[n]? = some c₀ ∧ { c₀ with hasSender := false } = c := by
        simpa using hc
      obtain ⟨-, hheld, hbounded, hkept, hlost⟩ := hf.serves n c₀ hc₀
      refine ⟨?_, hheld, hbounded, hkept, hlost⟩
      -- no other identity can have this channel
      have hgone : ¬ ∃ i, live? i (.closed id :: h) = some ⟨n⟩ := by
        intro hother
        obtain ⟨i, hi⟩ := hother
        by_cases hne : id = i
        · simp [live?, hne] at hi
        · simp only [live?, hne, if_false] at hi
          exact hne (hf.id_unique (mem_registrations_of_live? hlive) (mem_registrations_of_live? hi))
      simp [hgone]
    · have hc₀ : r.channels[k]? = some c := by simpa [hk] using hc
      refine (hf.serves k c hc₀).of_apart ⟨rfl, rfl, rfl⟩ ?_
      refine exists_congr fun i => ?_
      by_cases hi : id = i
      · subst hi
        simp [live?, hlive, hk]
      · simp [live?, hi]
  · intro k hk
    rw [List.length_modify] at hk
    exact hf.unopened k hk

theorem Follows.send (hf : r.Follows h) {id : String} {n : Nat} {c : Channel α} (m : α)
    (hid : r.live[id]? = some n) (hc : r.channels[n]? = some c) (hheld : c.hasReceiver = true)
    (hroom : c.queue.length < r.capacity) :
    Follows { r with channels := r.channels.set n { c with queue := c.queue ++ [m] } }
      (.queued id m :: h) := by
  have hlive := hf.live_channel hid
  have hn := (List.getElem?_eq_some_iff.mp hc).1
  refine hf.change List.length_set (fun k hk => ?_) (fun _ => rfl) rfl
    (fun hle => absurd hn (Nat.not_lt.mpr hle)) fun c' hc' => ?_
  · refine ⟨List.getElem?_set_ne (Ne.symm hk), rfl, rfl, ?_⟩
    simp [accepted, hlive, Ne.symm hk]
  · obtain rfl : { c with queue := c.queue ++ [m] } = c' := by simpa [hn] using hc'
    obtain ⟨hsender, hheld', -, hkept, -⟩ := hf.serves n c hc
    have hgave : gaveUp ⟨n⟩ h = false := by simpa [hheld] using hheld'
    refine ⟨hsender, hheld', ?_, fun _ => ?_, fun hup => ?_⟩
    · simp only [List.length_append, List.length_singleton]
      omega
    · simp [accepted, received, hlive, ← hkept hgave]
    · simp [gaveUp, hgave] at hup

theorem Follows.receive (hf : r.Follows h) {n : Nat} {c : Channel α} {m : α} {rest : List α}
    (hc : r.channels[n]? = some c) (hqueue : c.queue = m :: rest) :
    Follows { r with channels := r.channels.set n { c with queue := rest } }
      (.taken ⟨n⟩ m :: h) := by
  have hn := (List.getElem?_eq_some_iff.mp hc).1
  refine hf.change List.length_set (fun k hk => ?_) (fun _ => rfl) rfl
    (fun hle => absurd hn (Nat.not_lt.mpr hle)) fun c' hc' => ?_
  · refine ⟨List.getElem?_set_ne (Ne.symm hk), rfl, ?_, rfl⟩
    simp [received, Ne.symm hk]
  · obtain rfl : { c with queue := rest } = c' := by simpa [hn] using hc'
    obtain ⟨hsender, hheld, hbounded, hkept, hlost⟩ := hf.serves n c hc
    rw [hqueue, List.length_cons] at hbounded
    refine ⟨hsender, hheld, by dsimp only; omega, fun hgave => ?_, fun hup => ?_⟩
    · simpa [accepted, received, hqueue] using hkept hgave
    -- a receiving end that was given up holds nothing that could be taken
    · obtain ⟨hempty, -⟩ := hlost hup
      rw [hqueue] at hempty
      cases hempty

theorem Follows.drop (hf : r.Follows h) (receiver : Receiver) :
    (r.drop receiver).Follows (.dropped receiver :: h) := by
  refine hf.change (n := receiver.channel) (List.length_modify ..) (fun k hk => ?_) (fun _ => rfl) rfl
    (fun _ => ⟨rfl, rfl⟩) fun c hc => ?_
  · have hne : ¬ receiver = ⟨k⟩ := fun heq => hk (congrArg Receiver.channel heq).symm
    refine ⟨?_, by simp [gaveUp, hne], rfl, rfl⟩
    simp [Ne.symm hk]
  · obtain ⟨c₀, hc₀, rfl⟩ : ∃ c₀, r.channels[receiver.channel]? = some c₀ ∧
        { c₀ with queue := [], hasReceiver := false } = c := by
      simpa using hc
    obtain ⟨hsender, -, -, hkept, hlost⟩ := hf.serves receiver.channel c₀ hc₀
    have hprefix : received receiver h <+: accepted receiver h := by
      cases hgave : gaveUp receiver h with
      | false => exact ⟨_, hkept hgave⟩
      | true => exact (hlost hgave).2
    refine ⟨hsender, by simp [gaveUp], Nat.zero_le _, fun hgave => ?_, fun _ => ⟨rfl, hprefix⟩⟩
    simp [gaveUp] at hgave

theorem Follows.step (hf : r.Follows h) (call : StreamCall α) :
    (call.run r).2.Follows ((StreamEvent.of? (call, (call.run r).1)).toList ++ h) := by
  cases call with
  | activate id =>
    simp only [StreamCall.run, Registry.activate, Std.ExtTreeMap.contains_eq_isSome_getElem?]
    cases hid : r.live[id]? with
    | some n => exact hf
    | none => exact hf.activate hid
  | deactivate id =>
    simp only [StreamCall.run, Registry.deactivate]
    cases hid : r.live[id]? with
    | none => exact hf
    | some n => exact hf.deactivate hid
  | send id m =>
    simp only [StreamCall.run, Registry.send]
    cases hid : r.live[id]? with
    | none => exact hf
    | some n =>
      dsimp only
      cases hc : r.channels[n]? with
      | none => exact hf
      | some c =>
        dsimp only
        split_ifs with hclosed hfull
        · exact hf
        · exact hf
        · exact hf.send m hid hc (by simpa using hclosed) (by omega)
  | receive receiver =>
    simp only [StreamCall.run, Registry.receive]
    cases hc : r.channels[receiver.channel]? with
    | none => exact hf
    | some c =>
      dsimp only
      cases hqueue : c.queue with
      | cons m rest => exact hf.receive hc hqueue
      | nil =>
        cases c.hasSender <;> exact hf
  | drop receiver => exact hf.drop receiver

theorem follows_run (capacity : Nat) (cs : List (StreamCall α)) :
    (Runs.run StreamCall.run (new capacity) cs).2.Follows (StreamHistory.of (new capacity) cs) := by
  -- a history begins with its latest event, so a run is taken apart at its last call
  induction cs using List.reverseRecOn with
  | nil => exact follows_new capacity
  | append_singleton cs c ih =>
    rw [StreamHistory.of_concat, Runs.run_concat]
    exact ih.step c

theorem capacity_call (r : Registry α) (call : StreamCall α) :
    (call.run r).2.capacity = r.capacity := by
  cases call with
  | activate id =>
    simp only [StreamCall.run, Registry.activate]
    split <;> rfl
  | deactivate id =>
    simp only [StreamCall.run, Registry.deactivate]
    split <;> rfl
  | send id m =>
    simp only [StreamCall.run, Registry.send]
    split
    · rfl
    · split
      · rfl
      · split_ifs <;> rfl
  | receive receiver =>
    simp only [StreamCall.run, Registry.receive]
    split
    · rfl
    · split <;> rfl
  | drop receiver => rfl

theorem capacity_run (capacity : Nat) (cs : List (StreamCall α)) :
    (Runs.run StreamCall.run (new capacity) cs).2.capacity = max 1 capacity :=
  Runs.keep (fun r : Registry α => r.capacity = max 1 capacity)
    (fun r call hr => (capacity_call r call).trans hr) rfl cs

theorem Follows.answer_activate (hf : r.Follows h) (id : String) :
    (r.activate id).answer = match live? id h with
      | some _ => .error (.alreadyActive id)
      | none => .ok ⟨(registrations h).length⟩ := by
  have hlive := hf.live id
  have hcount := congrArg List.length hf.opened
  rw [List.length_map, List.length_range] at hcount
  simp only [Registry.activate, Std.ExtTreeMap.contains_eq_isSome_getElem?, hlive, hcount]
  cases live? id h <;> rfl

theorem Follows.answer_deactivate (hf : r.Follows h) (id : String) :
    (r.deactivate id).answer = match live? id h with
      | some _ => .ok ()
      | none => .error (.notActive id) := by
  have hlive := hf.live id
  simp only [Registry.deactivate, hlive]
  cases live? id h <;> rfl

theorem Follows.answer_send (hf : r.Follows h) (id : String) (m : α) :
    (r.send id m).answer = match live? id h with
      | none => .error (.notActive id)
      | some receiver =>
        if gaveUp receiver h then .error (.closed id)
        else if r.capacity + (received receiver h).length ≤ (accepted receiver h).length then
          .error (.full id)
        else .ok () := by
  have hlive := hf.live id
  simp only [Registry.send, hlive]
  cases hid : live? id h with
  | none => rfl
  | some receiver =>
    obtain ⟨c, hc, -, hheld, -, hkept, -⟩ :=
      hf.serves_registered (mem_registrations_of_live? hid)
    simp only [Option.map_some, hc, hheld, Bool.not_not]
    cases hgave : gaveUp receiver h with
    | true => rfl
    | false =>
      have hqueue := congrArg List.length (hkept hgave)
      rw [List.length_append] at hqueue
      have hfull : r.capacity ≤ c.queue.length ↔
          r.capacity + (received receiver h).length ≤ (accepted receiver h).length := by
        omega
      simp only [hfull, Bool.false_eq_true, if_false]
      split <;> rfl

theorem Follows.delivers (hf : r.Follows h) {id : String} {receiver : Receiver}
    (hreg : (id, receiver) ∈ registrations h) (hgave : gaveUp receiver h = false) :
    ∃ c, r.channels[receiver.channel]? = some c ∧
      received receiver h ++ c.queue = accepted receiver h ∧ c.queue.length ≤ r.capacity ∧
      ((r.receive receiver).1 = .closed ↔
        live? id h ≠ some receiver ∧ received receiver h = accepted receiver h) := by
  obtain ⟨c, hc, hsender, -, hbounded, hkept, -⟩ := hf.serves_registered hreg
  have hkept := hkept hgave
  have hsender : c.hasSender = true ↔ live? id h = some receiver := by
    rw [hsender]
    constructor
    · intro hlive
      obtain ⟨i, hi⟩ := hlive
      obtain rfl := hf.id_unique hreg (mem_registrations_of_live? hi)
      exact hi
    · exact fun hi => ⟨id, hi⟩
  refine ⟨c, hc, hkept, hbounded, ?_⟩
  rw [← hkept, ne_eq, ← hsender]
  simp only [Registry.receive, hc]
  cases c.queue with
  | cons m rest => simp
  | nil => cases c.hasSender <;> simp

theorem Follows.received_prefix (hf : r.Follows h) {id : String} {receiver : Receiver}
    (hreg : (id, receiver) ∈ registrations h) : received receiver h <+: accepted receiver h := by
  obtain ⟨_, -, -, -, -, hkept, hlost⟩ := hf.serves_registered hreg
  cases hgave : gaveUp receiver h with
  | false => exact ⟨_, hkept hgave⟩
  | true => exact (hlost hgave).2

/-- What consumers get and what callers are told after any calls. -/
theorem streams_deliver_in_order (capacity : Nat) (cs : List (StreamCall α)) :
    let r := (Runs.run StreamCall.run (new capacity) cs).2
    let h := StreamHistory.of (new capacity) cs
    (∀ id receiver, (id, receiver) ∈ registrations h →
      received receiver h <+: accepted receiver h ∧
      (gaveUp receiver h = false → ∃ c, r.channels[receiver.channel]? = some c ∧
        received receiver h ++ c.queue = accepted receiver h ∧
        c.queue.length ≤ max 1 capacity ∧
        ((r.receive receiver).1 = .closed ↔
          live? id h ≠ some receiver ∧ received receiver h = accepted receiver h))) ∧
    ((registrations h).map Prod.snd).Nodup ∧
    (∀ id, (r.activate id).answer = match live? id h with
      | some _ => .error (.alreadyActive id)
      | none => .ok ⟨(registrations h).length⟩) ∧
    (∀ id, (r.deactivate id).answer = match live? id h with
      | some _ => .ok ()
      | none => .error (.notActive id)) ∧
    ∀ id m, (r.send id m).answer = match live? id h with
      | none => .error (.notActive id)
      | some receiver =>
        if gaveUp receiver h then .error (.closed id)
        else if max 1 capacity + (received receiver h).length ≤ (accepted receiver h).length then
          .error (.full id)
        else .ok () := by
  intro r h
  have hf : r.Follows h := follows_run capacity cs
  have hcapacity : r.capacity = max 1 capacity := capacity_run capacity cs
  rw [← hcapacity]
  refine ⟨fun id receiver hreg => ⟨hf.received_prefix hreg, hf.delivers hreg⟩, ?_,
    hf.answer_activate, hf.answer_deactivate, hf.answer_send⟩
  refine List.Nodup.of_map Receiver.channel ?_
  rw [List.map_map]
  have hopened : (registrations h).map (Receiver.channel ∘ Prod.snd) = _ := hf.opened
  rw [hopened]
  exact List.nodup_range

end Registry

end LorawanRouting
