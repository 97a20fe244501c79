import LorawanRouting.Broker
import LorawanRouting.Proofs.ApplicationStores
import LorawanRouting.Proofs.Downlinks
import LorawanRouting.Proofs.StreamHistory

/-!
Runs of calls on a broker. Routers, handlers and applications change apart from each other; only an
uplink looks into the applications to know whose stream it is for. So what a broker answers is told by
three histories, those of the streams on its two sides and that of the registrations.
-/

namespace LorawanRouting

namespace StreamHistory

variable {α : Type}

def refusal? (capacity : Nat) (id : String) (h : StreamHistory α) : Option RegistryError :=
  match live? id h with
  | none => some (.notActive id)
  | some receiver =>
    if gaveUp receiver h then some (.closed id)
    else if capacity + (received receiver h).length ≤ (accepted receiver h).length then
      some (.full id)
    else none

end StreamHistory

namespace Registry

variable {α : Type} {r : Registry α} {h : StreamHistory α} {id : String}

theorem Follows.answer_send_eq (hf : r.Follows h) (id : String) (m : α) :
    (r.send id m).answer = match StreamHistory.refusal? r.capacity id h with
      | some e => .error e
      | none => .ok () := by
  rw [hf.answer_send, StreamHistory.refusal?]
  cases StreamHistory.live? id h with
  | none => rfl
  | some receiver =>
    dsimp only
    split_ifs <;> rfl

theorem answer_send_ok_iff (r : Registry α) (id : String) (m : α) :
    (r.send id m).answer = .ok () ↔ r.Takes id := by
  constructor
  · intro hok
    by_contra hnot
    obtain ⟨e, he⟩ := send_of_not_takes hnot m
    rw [he] at hok
    cases hok
  · exact fun h => (send_of_takes h m).1

theorem Follows.answer_send_error_iff (hf : r.Follows h) (id : String) (m : α) (e : RegistryError) :
    (r.send id m).answer = .error e ↔ StreamHistory.refusal? r.capacity id h = some e := by
  rw [hf.answer_send_eq]
  cases StreamHistory.refusal? r.capacity id h <;> simp

theorem state_run_of_no_event {c : StreamCall α} (h : StreamEvent.of? (c, (c.run r).1) = none) :
    (c.run r).2 = r := by
  cases c with
  | activate id =>
    simp only [StreamCall.run, activate] at h ⊢
    split at h
    · simp_all
    · cases h
  | deactivate id =>
    simp only [StreamCall.run, deactivate] at h ⊢
    cases hid : r.live[id]? with
    | none => rfl
    | some n => simp [hid, StreamEvent.of?] at h
  | send id m =>
    by_cases htakes : r.Takes id
    · simp [StreamCall.run, (send_of_takes htakes m).1, StreamEvent.of?] at h
    · obtain ⟨e, he⟩ := send_of_not_takes htakes m
      simp only [StreamCall.run, he]
  | receive receiver =>
    simp only [StreamCall.run, receive] at h ⊢
    cases hc : r.channels[receiver.channel]? with
    | none => rfl
    | some c =>
      cases hqueue : c.queue with
      | nil => simp [hqueue]
      | cons m rest => simp [hc, hqueue, StreamEvent.of?] at h
  | drop receiver => cases h

end Registry

namespace Broker
open StreamHistory (refusal?)

inductive HandlerUse
  | activate (id : String)
  | deactivate (id : String)
  | receive (receiver : Receiver)
  | drop (receiver : Receiver)

def HandlerUse.call : HandlerUse → StreamCall HandlerUplink
  | .activate id => .activate id
  | .deactivate id => .deactivate id
  | .receive receiver => .receive receiver
  | .drop receiver => .drop receiver

inductive Call
  | register (a : Application)
  | remove (app : AppEui)
  | refuse (refused : List Method) (error : Method → BackendError)
  | router (c : StreamCall Downlink)
  | handler (use : HandlerUse)
  | uplink (m : HandlerUplink)

inductive Answer
  | stored (result : Except StoreError Unit)
  | opened (result : Except BrokerError Receiver)
  | done (result : Except BrokerError Unit)
  | downlink (found : Received Downlink)
  | uplink (found : Received HandlerUplink)

def Answer.Failed : Answer → Prop
  | .stored (.ok _) | .opened (.ok _) | .done (.ok _) => False
  | .downlink (.message _) | .uplink (.message _) => False
  | _ => True

def Call.run (b : Broker Applications) : Call → Answer × Broker Applications
  | .register a =>
    let r := ApplicationStore.set b.applications a
    (.stored r.answer, { b with applications := r.state })
  | .remove app =>
    let r := ApplicationStore.delete b.applications app
    (.stored r.answer, { b with applications := r.state })
  | .refuse refused error =>
    (.stored (.ok ()), { b with applications := b.applications.refusing refused error })
  | .router (.activate id) =>
    let r := b.activateRouter id
    (.opened r.answer, r.state)
  | .router (.deactivate id) =>
    let r := b.deactivateRouter id
    (.done r.answer, r.state)
  | .router (.send id m) =>
    let r := b.sendDownlink id m
    (.done r.answer, r.state)
  | .router (.receive receiver) =>
    let (found, routers) := b.routers.receive receiver
    (.downlink found, b.withRouters routers)
  | .router (.drop receiver) => (.done (.ok ()), b.withRouters (b.routers.drop receiver))
  | .handler (.activate id) =>
    let r := b.activateHandler id
    (.opened r.answer, r.state)
  | .handler (.deactivate id) =>
    let r := b.deactivateHandler id
    (.done r.answer, r.state)
  | .handler (.receive receiver) =>
    let (found, handlers) := b.handlers.receive receiver
    (.uplink found, b.withHandlers handlers)
  | .handler (.drop receiver) => (.done (.ok ()), b.withHandlers (b.handlers.drop receiver))
  | .uplink m =>
    let r := b.sendUplink m
    (.done r.answer, r.state)

namespace Call

/-- The calls that know routers by their names; all others know handlers, applications or neither. -/
def ofRouters : Call → Bool
  | .router _ => true
  | _ => false

def ofStore : Call → Bool
  | .register _ | .remove _ | .refuse .. => true
  | _ => false

end Call

def Answer.ofStream {α : Type} (found : Received α → Answer) : StreamAnswer α → Answer
  | .opened r => .opened (r.mapError .stream)
  | .done r => .done (r.mapError .stream)
  | .found m => found m
  | .dropped => .done (.ok ())

theorem run_router (b : Broker Applications) (c : StreamCall Downlink) :
    (Call.router c).run b =
      (.ofStream .downlink (c.run b.routers).1, b.withRouters (c.run b.routers).2) := by
  cases c <;> rfl

theorem run_handler (b : Broker Applications) (use : HandlerUse) :
    (Call.handler use).run b =
      (.ofStream .uplink (use.call.run b.handlers).1, b.withHandlers (use.call.run b.handlers).2) := by
  cases use <;> rfl

section Uplink

variable {α : Type} [ApplicationStore α] {b : Broker α}

theorem sendUplink_of_found {m : HandlerUplink} {a : Application}
    (h : ApplicationStore.get b.applications m.app = .ok a) :
    b.sendUplink m = ((b.handlers.send a.handler m).mapState b.withHandlers).mapError .stream := by
  rw [sendUplink, h]

theorem sendUplink_of_unknown {m : HandlerUplink}
    (h : ApplicationStore.get b.applications m.app = .error .notFound) :
    b.sendUplink m = ⟨.error (.unknownApplication m.app), b⟩ := by
  rw [sendUplink, h]

theorem sendUplink_of_failed {m : HandlerUplink} {e : StoreError} (he : e ≠ .notFound)
    (h : ApplicationStore.get b.applications m.app = .error e) :
    b.sendUplink m = ⟨.error (.store e), b⟩ := by
  rw [sendUplink, h]
  cases e <;> first | rfl | exact absurd rfl he

theorem answer_sendUplink {h : StreamHistory HandlerUplink} (hf : b.handlers.Follows h)
    (m : HandlerUplink) :
    let lookup := ApplicationStore.get b.applications m.app
    ((b.sendUplink m).answer = .ok () ↔ ∃ a, lookup = .ok a ∧ b.handlers.Takes a.handler) ∧
    (∀ app, (b.sendUplink m).answer = .error (.unknownApplication app) ↔
      app = m.app ∧ lookup = .error .notFound) ∧
    (∀ e, (b.sendUplink m).answer = .error (.store e) ↔ lookup = .error e ∧ e ≠ .notFound) ∧
    ∀ e, (b.sendUplink m).answer = .error (.stream e) ↔
      ∃ a, lookup = .ok a ∧ refusal? b.handlers.capacity a.handler h = some e := by
  intro lookup
  cases hlookup : lookup with
  | ok a =>
    have hanswer : (b.sendUplink m).answer =
        ((b.handlers.send a.handler m).answer).mapError .stream := by
      rw [sendUplink_of_found hlookup]
      rfl
    simp only [hanswer, Except.ok.injEq, exists_eq_left', ← Registry.answer_send_ok_iff _ a.handler m,
      ← hf.answer_send_error_iff a.handler m]
    cases (b.handlers.send a.handler m).answer <;> simp [Except.mapError]
  | error e =>
    by_cases he : e = .notFound
    · subst he
      rw [sendUplink_of_unknown hlookup]
      simp [eq_comm]
    · rw [sendUplink_of_failed he hlookup]
      simp only [Except.error.injEq, BrokerError.store.injEq, reduceCtorEq, false_and, exists_false,
        he, and_false]
      refine ⟨trivial, fun _ => trivial, fun e' => ⟨?_, And.left⟩, fun _ => trivial⟩
      rintro rfl
      exact ⟨rfl, he⟩

theorem state_sendUplink_of_takes {m : HandlerUplink} {a : Application}
    (h : ApplicationStore.get b.applications m.app = .ok a) (htakes : b.handlers.Takes a.handler) :
    ∃ handlers, (b.sendUplink m).state = b.withHandlers handlers ∧
      b.handlers.Queued a.handler m handlers := by
  rw [sendUplink_of_found h]
  exact ⟨_, rfl, (Registry.send_of_takes htakes m).2⟩

theorem state_sendUplink_of_error {m : HandlerUplink} (h : (b.sendUplink m).answer ≠ .ok ()) :
    (b.sendUplink m).state = b := by
  cases hlookup : ApplicationStore.get b.applications m.app with
  | ok a =>
    by_cases htakes : b.handlers.Takes a.handler
    · rw [sendUplink_of_found hlookup] at h
      exact absurd (congrArg (Except.mapError BrokerError.stream)
        (Registry.send_of_takes htakes m).1) h
    · obtain ⟨e, he⟩ := Registry.send_of_not_takes htakes m
      rw [sendUplink_of_found hlookup, he]
      rfl
  | error e =>
    by_cases he : e = .notFound
    · subst he
      rw [sendUplink_of_unknown hlookup]
    · rw [sendUplink_of_failed he hlookup]

end Uplink

variable {b : Broker Applications}

theorem of?_of_failed {α : Type} {found : Received α → Answer} {c : StreamCall α} {r : Registry α}
    (hfound : ∀ m, ¬ (found (.message m)).Failed)
    (h : (Answer.ofStream found (c.run r).1).Failed) : StreamEvent.of? (c, (c.run r).1) = none := by
  cases c with
  | activate id =>
    simp only [StreamCall.run] at h ⊢
    cases hans : (r.activate id).answer with
    | ok receiver => simp [hans, Answer.ofStream, Except.mapError, Answer.Failed] at h
    | error e => rfl
  | deactivate id =>
    simp only [StreamCall.run] at h ⊢
    cases hans : (r.deactivate id).answer with
    | ok receiver => simp [hans, Answer.ofStream, Except.mapError, Answer.Failed] at h
    | error e => rfl
  | send id m =>
    simp only [StreamCall.run] at h ⊢
    cases hans : (r.send id m).answer with
    | ok receiver => simp [hans, Answer.ofStream, Except.mapError, Answer.Failed] at h
    | error e => rfl
  | receive receiver =>
    simp only [StreamCall.run] at h ⊢
    cases hans : (r.receive receiver).1 with
    | message m =>
      rw [hans] at h
      exact absurd h (hfound m)
    | empty => rfl
    | closed => rfl
  | drop receiver => cases h

theorem streams_of_failed {c : Call} (h : (c.run b).1.Failed) :
    (c.run b).2.routers = b.routers ∧ (c.run b).2.handlers = b.handlers := by
  cases c with
  | register a => exact ⟨rfl, rfl⟩
  | remove app => exact ⟨rfl, rfl⟩
  | refuse refused error => exact ⟨rfl, rfl⟩
  | router c =>
    rw [run_router] at h ⊢
    exact ⟨Registry.state_run_of_no_event (of?_of_failed (fun _ => id) h), rfl⟩
  | handler use =>
    rw [run_handler] at h ⊢
    exact ⟨rfl, Registry.state_run_of_no_event (of?_of_failed (fun _ => id) h)⟩
  | uplink m =>
    have hnot : (b.sendUplink m).answer ≠ .ok () := by
      intro hok
      simp only [Call.run, hok] at h
      cases h
    simp only [Call.run, state_sendUplink_of_error hnot]
    exact ⟨trivial, trivial⟩

theorem streams_of_ofStore {c : Call} (h : c.ofStore = true) :
    (c.run b).2.routers = b.routers ∧ (c.run b).2.handlers = b.handlers := by
  cases c with
  | register a => exact ⟨rfl, rfl⟩
  | remove app => exact ⟨rfl, rfl⟩
  | refuse refused error => exact ⟨rfl, rfl⟩
  | router | handler | uplink => cases h

theorem run_inside_routers {b b' : Broker Applications} {c : Call} (hc : c.ofRouters = true)
    (h : b.routers = b'.routers) :
    (c.run b).1 = (c.run b').1 ∧ (c.run b).2.routers = (c.run b').2.routers := by
  cases c with
  | router c =>
    rw [run_router, run_router, h]
    exact ⟨rfl, rfl⟩
  | register | remove | refuse | handler | uplink => cases hc

theorem routers_run_of_not_ofRouters {c : Call} (hc : c.ofRouters = false) :
    (c.run b).2.routers = b.routers := by
  cases c with
  | router c => cases hc
  | handler use =>
    rw [run_handler]
    rfl
  | uplink m =>
    simp only [Call.run, sendUplink]
    cases ApplicationStore.get b.applications m.app with
    | ok a => rfl
    | error e => cases e <;> rfl
  | register | remove | refuse => rfl

/-- What routers do not see: the handlers' streams and the applications. -/
def handlerSide (b : Broker Applications) : Registry HandlerUplink × Applications :=
  (b.handlers, b.applications)

theorem run_inside_handlers {b b' : Broker Applications} {c : Call} (hc : c.ofRouters = false)
    (h : b.handlerSide = b'.handlerSide) :
    (c.run b).1 = (c.run b').1 ∧ (c.run b).2.handlerSide = (c.run b').2.handlerSide := by
  obtain ⟨hhandlers, happlications⟩ := Prod.mk.inj h
  cases c with
  | router c => cases hc
  | handler use =>
    rw [run_handler, run_handler, hhandlers]
    exact ⟨rfl, Prod.ext rfl happlications⟩
  | uplink m =>
    simp only [Call.run, sendUplink, happlications]
    cases ApplicationStore.get b'.applications m.app with
    | ok a =>
      simp only [hhandlers]
      exact ⟨rfl, Prod.ext rfl happlications⟩
    | error e => cases e <;> exact ⟨rfl, h⟩
  | register a =>
    simp only [Call.run, happlications]
    exact ⟨trivial, Prod.ext hhandlers rfl⟩
  | remove app =>
    simp only [Call.run, happlications]
    exact ⟨trivial, Prod.ext hhandlers rfl⟩
  | refuse refused error =>
    simp only [Call.run, happlications]
    exact ⟨trivial, Prod.ext hhandlers rfl⟩

theorem handlerSide_run_of_ofRouters {c : Call} (hc : c.ofRouters = true) :
    (c.run b).2.handlerSide = b.handlerSide := by
  cases c with
  | router c =>
    rw [run_router]
    rfl
  | register | remove | refuse | handler | uplink => cases hc

/-- The application registered at last under an identifier, if it was not removed since. -/
def registered? (app : AppEui) : List (Call × Answer) → Option Application
  | [] => none
  | (.register a, .stored (.ok ())) :: past => if a.app = app then some a else registered? app past
  | (.remove other, .stored (.ok ())) :: past => if other = app then none else registered? app past
  | _ :: past => registered? app past

def routerEvent? : Call × Answer → Option (StreamEvent Downlink)
  | (.router (.activate id), .opened (.ok receiver)) => some (.opened id receiver)
  | (.router (.deactivate id), .done (.ok ())) => some (.closed id)
  | (.router (.send id m), .done (.ok ())) => some (.queued id m)
  | (.router (.receive receiver), .downlink (.message m)) => some (.taken receiver m)
  | (.router (.drop receiver), _) => some (.dropped receiver)
  | _ => none

/-- An uplink that was taken is on the stream of the handler registered when it came. -/
def handlerEvent? (past : List (Call × Answer)) : Call × Answer → Option (StreamEvent HandlerUplink)
  | (.handler (.activate id), .opened (.ok receiver)) => some (.opened id receiver)
  | (.handler (.deactivate id), .done (.ok ())) => some (.closed id)
  | (.handler (.receive receiver), .uplink (.message m)) => some (.taken receiver m)
  | (.handler (.drop receiver), _) => some (.dropped receiver)
  | (.uplink m, .done (.ok ())) => (registered? m.app past).map fun a => .queued a.handler m
  | _ => none

def routerHistory (past : List (Call × Answer)) : StreamHistory Downlink :=
  past.filterMap routerEvent?

def handlerHistory : List (Call × Answer) → StreamHistory HandlerUplink
  | [] => []
  | e :: past => (handlerEvent? past e).toList ++ handlerHistory past

structure Tells (capacity : Nat) (b : Broker Applications) (past : List (Call × Answer)) : Prop where
  applications : ∃ t, b.applications.Shows t ∧ ∀ app : AppEui, t.rows[app]? = registered? app past
  routers : b.routers.Follows (routerHistory past)
  handlers : b.handlers.Follows (handlerHistory past)
  capacities : b.routers.capacity = max 1 capacity ∧ b.handlers.capacity = max 1 capacity

theorem routerHistory_cons (e : Call × Answer) (past : List (Call × Answer)) :
    routerHistory (e :: past) = (routerEvent? e).toList ++ routerHistory past := by
  rw [routerHistory, List.filterMap_cons]
  cases routerEvent? e <;> rfl

theorem routerEvent?_ofStream (c : StreamCall Downlink) (r : Registry Downlink) :
    routerEvent? (.router c, .ofStream .downlink (c.run r).1) = StreamEvent.of? (c, (c.run r).1) := by
  cases c with
  | activate id =>
    simp only [StreamCall.run]
    cases (r.activate id).answer <;> rfl
  | deactivate id =>
    simp only [StreamCall.run]
    cases (r.deactivate id).answer <;> rfl
  | send id m =>
    simp only [StreamCall.run]
    cases (r.send id m).answer <;> rfl
  | receive receiver =>
    simp only [StreamCall.run]
    cases (r.receive receiver).1 <;> rfl
  | drop receiver => rfl

theorem handlerEvent?_ofStream (past : List (Call × Answer)) (use : HandlerUse)
    (r : Registry HandlerUplink) :
    handlerEvent? past (.handler use, .ofStream .uplink (use.call.run r).1) =
      StreamEvent.of? (use.call, (use.call.run r).1) := by
  cases use with
  | activate id =>
    simp only [HandlerUse.call, StreamCall.run]
    cases (r.activate id).answer <;> rfl
  | deactivate id =>
    simp only [HandlerUse.call, StreamCall.run]
    cases (r.deactivate id).answer <;> rfl
  | receive receiver =>
    simp only [HandlerUse.call, StreamCall.run]
    cases (r.receive receiver).1 <;> rfl
  | drop receiver => rfl

variable {capacity : Nat} {past : List (Call × Answer)}

theorem tells_new {start : Applications} (h : start.Shows .empty) :
    Tells capacity (new capacity start) [] where
  applications := ⟨.empty, h, fun app => by simp [ApplicationTable.empty, registered?]⟩
  routers := Registry.follows_new capacity
  handlers := Registry.follows_new capacity
  capacities := ⟨rfl, rfl⟩

theorem Tells.lookup (h : Tells capacity b past) (app : AppEui) :
    ApplicationStore.get b.applications app = match b.applications.refusal .fields with
      | some e => .error (.backend e)
      | none => match registered? app past with
        | some a => .ok a
        | none => .error .notFound := by
  obtain ⟨t, ht, hrows⟩ := h.applications
  cases hpass : b.applications.refusal .fields with
  | some e => exact Applications.get_of_refused hpass app
  | none =>
    rw [ht.get hpass, ← hrows]
    rfl

theorem Tells.register (h : Tells capacity b past) (a : Application) :
    Tells capacity ((Call.register a).run b).2
      ((.register a, ((Call.register a).run b).1) :: past) := by
  obtain ⟨⟨t, ht, hrows⟩, hrouters, hhandlers, hcapacities⟩ := h
  refine ⟨?_, hrouters, hhandlers, hcapacities⟩
  simp only [Call.run]
  cases hpass : b.applications.refusal .putFields with
  | some e =>
    rw [Applications.set_of_refused hpass]
    exact ⟨t, ht, hrows⟩
  | none =>
    obtain ⟨hans, hstate⟩ := ht.set hpass a
    rw [hans]
    refine ⟨_, hstate, fun app => ?_⟩
    rw [Std.ExtTreeMap.getElem?_insert, hrows, registered?]
    simp only [Std.compare_eq_iff_eq]

theorem Tells.remove (h : Tells capacity b past) (app : AppEui) :
    Tells capacity ((Call.remove app).run b).2
      ((.remove app, ((Call.remove app).run b).1) :: past) := by
  obtain ⟨⟨t, ht, hrows⟩, hrouters, hhandlers, hcapacities⟩ := h
  refine ⟨?_, hrouters, hhandlers, hcapacities⟩
  simp only [Call.run]
  cases hpass : b.applications.refusal .remove with
  | some e =>
    rw [Applications.delete_of_refused hpass]
    exact ⟨t, ht, hrows⟩
  | none =>
    obtain ⟨hans, hstate⟩ := ht.delete hpass app
    refine ⟨_, hstate, fun other => ?_⟩
    rw [hans, ApplicationTable.delete]
    cases hthere : t.rows.contains app with
    | true => simp [registered?, Std.ExtTreeMap.getElem?_erase, hrows]
    | false =>
      rw [ApplicationTable.erase_of_absent (by simp [hthere]), hrows]
      rfl

theorem Tells.registered_of_found (h : Tells capacity b past) {app : AppEui} {a : Application}
    (ha : ApplicationStore.get b.applications app = .ok a) : registered? app past = some a := by
  rw [h.lookup] at ha
  cases hpass : b.applications.refusal .fields with
  | some e => simp [hpass] at ha
  | none =>
    cases hfound : registered? app past with
    | none => simp [hpass, hfound] at ha
    | some a' =>
      simp only [hpass, hfound] at ha
      rw [Except.ok.inj ha]

theorem Tells.uplink (h : Tells capacity b past) (m : HandlerUplink) :
    Tells capacity ((Call.uplink m).run b).2
      ((.uplink m, ((Call.uplink m).run b).1) :: past) := by
  simp only [Call.run]
  by_cases hok : (b.sendUplink m).answer = .ok ()
  · obtain ⟨a, ha, htakes⟩ := (answer_sendUplink h.handlers m).1.mp hok
    have hsent := (Registry.send_of_takes htakes m).1
    have hstep := h.handlers.step (.send a.handler m)
    have hcapacity := Registry.capacity_call b.handlers (.send a.handler m)
    simp only [StreamCall.run, hsent, StreamEvent.of?, Option.toList_some] at hstep hcapacity
    rw [hok, sendUplink_of_found ha]
    refine ⟨h.applications, h.routers, ?_, h.capacities.1, hcapacity.trans h.capacities.2⟩
    simp only [handlerHistory, handlerEvent?, h.registered_of_found ha, Option.map_some,
      Option.toList_some]
    exact hstep
  · rw [state_sendUplink_of_error hok]
    obtain ⟨e, he⟩ : ∃ e, (b.sendUplink m).answer = .error e := by
      cases hans : (b.sendUplink m).answer with
      | ok => exact absurd hans hok
      | error e => exact ⟨e, rfl⟩
    rw [he]
    exact ⟨h.applications, h.routers, h.handlers, h.capacities⟩

theorem Tells.step (h : Tells capacity b past) (c : Call) :
    Tells capacity (c.run b).2 ((c, (c.run b).1) :: past) := by
  cases c with
  | register a => exact h.register a
  | remove app => exact h.remove app
  | refuse refused error =>
    obtain ⟨⟨t, ht, hrows⟩, hrouters, hhandlers, hcapacities⟩ := h
    exact ⟨⟨t, ht.refusing refused error, hrows⟩, hrouters, hhandlers, hcapacities⟩
  | router c =>
    rw [run_router]
    refine ⟨h.applications, ?_, h.handlers, ?_⟩
    · have hstep := h.routers.step c
      rw [← routerEvent?_ofStream, ← routerHistory_cons] at hstep
      exact hstep
    · exact ⟨(Registry.capacity_call _ c).trans h.capacities.1, h.capacities.2⟩
  | handler use =>
    rw [run_handler]
    refine ⟨h.applications, h.routers, ?_, ?_⟩
    · have hstep := h.handlers.step use.call
      rw [← handlerEvent?_ofStream past] at hstep
      exact hstep
    · exact ⟨h.capacities.1, (Registry.capacity_call _ use.call).trans h.capacities.2⟩
  | uplink m => exact h.uplink m

theorem Tells.sendDownlink (h : Tells capacity b past) (id : String) (m : Downlink) :
    ((b.sendDownlink id m).answer = .ok () ↔ b.routers.Takes id) ∧
      (∀ e, (b.sendDownlink id m).answer = .error e ↔ ∃ cause, e = .stream cause ∧
        refusal? (max 1 capacity) id (routerHistory past) = some cause) ∧
      (b.routers.Takes id → ∃ routers, (b.sendDownlink id m).state = b.withRouters routers ∧
        b.routers.Queued id m routers) := by
  have hanswer : (b.sendDownlink id m).answer = ((b.routers.send id m).answer).mapError .stream := rfl
  refine ⟨?_, fun e => ?_, fun htakes => ⟨_, rfl, (Registry.send_of_takes htakes m).2⟩⟩
  · rw [hanswer, ← Registry.answer_send_ok_iff b.routers id m]
    cases (b.routers.send id m).answer <;> simp [Except.mapError]
  · simp only [hanswer, ← h.capacities.1, ← h.routers.answer_send_error_iff id m]
    cases (b.routers.send id m).answer <;> simp [Except.mapError, eq_comm]

theorem tells_run {start : Applications} (h : start.Shows .empty) (cs : List Call) :
    Tells capacity (Runs.run Call.run (new capacity start) cs).2
      (Runs.log Call.run (new capacity start) cs) := by
  induction cs using List.reverseRecOn with
  | nil => exact tells_new h
  | append_singleton cs c ih =>
    rw [Runs.log_concat, Runs.run_concat]
    exact ih.step c

/-- What uplinks and downlinks come to after any calls, and what calls leave alone. -/
theorem uplinks_follow_registrations (start : Applications)
    (hstart : start = .inMemory ∨ start = .onStorage (.memory .empty) ∨
      start = .onStorage (.database .empty)) (capacity : Nat) (cs : List Call) :
    let b := (Runs.run Call.run (new capacity start) cs).2
    let past := Runs.log Call.run (new capacity start) cs
    let lookup := ApplicationStore.get b.applications
    -- an application is looked up among those registered and not removed since
    (∀ app, lookup app = match b.applications.refusal .fields with
      | some e => .error (.backend e)
      | none => match registered? app past with
        | some a => .ok a
        | none => .error .notFound) ∧
    -- an uplink is queued on the stream of its handler, or it tells by which of four causes it failed
    (∀ m, ((b.sendUplink m).answer = .ok () ↔
        ∃ a, lookup m.app = .ok a ∧ b.handlers.Takes a.handler) ∧
      (∀ app, (b.sendUplink m).answer = .error (.unknownApplication app) ↔
        app = m.app ∧ lookup m.app = .error .notFound) ∧
      (∀ e, (b.sendUplink m).answer = .error (.store e) ↔ lookup m.app = .error e ∧ e ≠ .notFound) ∧
      (∀ e, (b.sendUplink m).answer = .error (.stream e) ↔ ∃ a, lookup m.app = .ok a ∧
        refusal? (max 1 capacity) a.handler (handlerHistory past) = some e) ∧
      ∀ a, lookup m.app = .ok a → b.handlers.Takes a.handler →
        ∃ handlers, (b.sendUplink m).state = b.withHandlers handlers ∧
          b.handlers.Queued a.handler m handlers) ∧
    (∀ id m, ((b.sendDownlink id m).answer = .ok () ↔ b.routers.Takes id) ∧
      (∀ e, (b.sendDownlink id m).answer = .error e ↔ ∃ cause, e = .stream cause ∧
        refusal? (max 1 capacity) id (routerHistory past) = some cause) ∧
      (b.routers.Takes id → ∃ routers, (b.sendDownlink id m).state = b.withRouters routers ∧
        b.routers.Queued id m routers)) ∧
    -- calls that fail, and those on the applications, leave every stream as it was
    (∀ c : Call, (c.run b).1.Failed ∨ c.ofStore = true →
      (c.run b).2.routers = b.routers ∧ (c.run b).2.handlers = b.handlers) ∧
    -- either side is answered as if the other were not there
    (past.filter fun e => e.1.ofRouters) =
        Runs.log Call.run (new capacity start) (cs.filter Call.ofRouters) ∧
      (past.filter fun e => !e.1.ofRouters) =
        Runs.log Call.run (new capacity start) (cs.filter fun c => !c.ofRouters) := by
  have hshows : start.Shows .empty := by
    rcases hstart with rfl | rfl | rfl
    · exact Applications.shows_inMemory
    · exact Applications.shows_onStorage_memory
    · exact Applications.shows_onStorage_database
  intro b past lookup
  have htells : Tells capacity b past := tells_run hshows cs
  refine ⟨htells.lookup, fun m => ?_, fun id m => ?_, fun c hc => ?_, ?_, ?_⟩
  · obtain ⟨hok, hunknown, hstore, hstream⟩ := answer_sendUplink htells.handlers m
    rw [htells.capacities.2] at hstream
    exact ⟨hok, hunknown, hstore, hstream, fun a ha htakes => state_sendUplink_of_takes ha htakes⟩
  · exact htells.sendDownlink id m
  · rcases hc with hfailed | hstore
    · exact streams_of_failed hfailed
    · exact streams_of_ofStore hstore
  · exact (Runs.log_filter Broker.routers Call.ofRouters (fun _ _ _ => run_inside_routers)
      (fun _ _ => routers_run_of_not_ofRouters) cs).1
  · exact (Runs.log_filter handlerSide (fun c : Call => !c.ofRouters)
      (fun _ _ c hc => run_inside_handlers (c := c) (by simpa using hc))
      (fun _ c hc => handlerSide_run_of_ofRouters (c := c) (by simpa using hc)) cs).1

theorem uplinks_follow_registrations_of_active :
    let a : Application := ⟨.zero _, "handler", ""⟩
    let m : HandlerUplink := ⟨a.app, .zero _, [64], ⟨.lora, "SF7BW125", "4/5"⟩, []⟩
    let cs : List Call := [.register a, .handler (.activate "handler")]
    let b := (Runs.run Call.run (new 1 .inMemory) cs).2
    (Applications.inMemory = .inMemory ∨ Applications.inMemory = .onStorage (.memory .empty) ∨
      Applications.inMemory = .onStorage (.database .empty)) ∧ (b.sendUplink m).answer = .ok () := by
  intro a m cs b
  refine ⟨Or.inl rfl, ?_⟩
  have htakes : b.handlers.Takes "handler" := ⟨0, ⟨[], true, true⟩, rfl, rfl, rfl, by decide⟩
  obtain ⟨-, huplink, -⟩ := uplinks_follow_registrations .inMemory (Or.inl rfl) 1 cs
  exact (huplink m).1.mpr ⟨a, rfl, htakes⟩

end Broker

end LorawanRouting
