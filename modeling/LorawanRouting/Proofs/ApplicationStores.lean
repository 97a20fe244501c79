import LorawanRouting.Application.Applications
import LorawanRouting.Proofs.Identifier
import LorawanRouting.Proofs.TidyBackends

/-!
Stores of applications. Records over a backend answer like the table of the applications that were
set, since each record has all three fields of its application and is put and removed as a whole. A
refused method tells its error and leaves the store as it was.
-/

namespace LorawanRouting

namespace Refusing

variable {σ α : Type} {kv : Refusing σ} {m : Method} {e : BackendError}

theorem ask_of_refused (h : kv.refusal m = some e) (answer : Except BackendError α) :
    kv.ask m answer = .error e := by
  rw [ask, h]

theorem ask_of_passed (h : kv.refusal m = none) (answer : Except BackendError α) :
    kv.ask m answer = answer := by
  rw [ask, h]

theorem change_of_refused (h : kv.refusal m = some e) (reply : Reply σ BackendError α) :
    kv.change [m] reply = ⟨.error e, kv⟩ := by
  rw [change, List.findSome?_cons, h]

theorem change_of_passed (h : kv.refusal m = none) (reply : Reply σ BackendError α) :
    kv.change [m] reply = reply.mapState fun inner => { kv with inner } := by
  rw [change, List.findSome?_cons, h]
  rfl

end Refusing

namespace ApplicationTable

theorem erase_of_absent {t : ApplicationTable} {app : AppEui}
    (h : ¬ t.rows.contains app) : t.rows.erase app = t.rows := by
  refine Std.ExtTreeMap.ext_getElem? fun other => ?_
  rw [Std.ExtTreeMap.getElem?_erase]
  split
  case isTrue heq =>
    obtain rfl := Std.LawfulEqCmp.eq_of_compare heq
    rw [Std.ExtTreeMap.contains_eq_isSome_getElem?] at h
    exact (Option.not_isSome_iff_eq_none.mp h).symm
  case isFalse => rfl

theorem state_delete (t : ApplicationTable) (app : AppEui) :
    (t.delete app).state = ⟨t.rows.erase app⟩ := by
  rw [delete]
  split
  case isTrue => rfl
  case isFalse hnone => exact congrArg ApplicationTable.mk (erase_of_absent hnone).symm

end ApplicationTable

namespace ApplicationRecords

theorem recordKey_injective : Function.Injective recordKey := by
  intro x y h
  have hlist := congrArg String.toList h
  have hkey : ∀ app, (recordKey app).toList = "application:".toList ++ app.text.toList := fun app =>
    String.toList_append
  rw [hkey, hkey, List.append_cancel_left_eq] at hlist
  exact Identifier.text_injective (String.toList_injective hlist)

theorem getElem?_toFields (a : Application) (name : String) :
    (toFields a)[name]? =
      if name = "handler_net_address" then some a.handlerAddress
      else if name = "handler_id" then some a.handler
      else if name = "app_eui" then some a.app.text else none := by
  simp only [toFields, Std.ExtTreeMap.getElem?_insert, Std.compare_eq_iff_eq, eq_comm (b := name),
    Std.ExtTreeMap.getElem?_empty]

theorem toFields_ne_empty (a : Application) : toFields a ≠ ∅ := by
  intro hempty
  have hfield := getElem?_toFields a "app_eui"
  rw [hempty] at hfield
  simp at hfield

theorem ofFields_toFields (a : Application) : ofFields (toFields a) = .ok a := by
  simp [ofFields, getElem?_toFields, Identifier.ofText?_text]

theorem overlay_toFields (old : Option Application) (a : Application) :
    ((old.map toFields).getD ∅).overlay (toFields a) = toFields a := by
  refine Std.ExtTreeMap.ext_getElem? fun name => ?_
  rw [FieldMap.getElem?_overlay, getElem?_toFields]
  cases old with
  | none => simp
  | some b =>
    rw [Option.map_some, Option.getD_some, getElem?_toFields]
    split_ifs <;> rfl

structure Represents (c : Contents) (t : ApplicationTable) : Prop where
  keyed : ∀ {app} {a : Application}, t.rows[app]? = some a → a.app = app
  record : ∀ app, c.record (recordKey app) = (t.rows[app]?.map toFields).getD ∅
  members : ∀ app, c.members (recordKey app) = ∅

theorem represents_empty : Represents .empty .empty where
  keyed h := by simp [ApplicationTable.empty] at h
  record app := by simp [ApplicationTable.empty, Contents.empty]
  members _ := rfl

variable {c : Contents} {t : ApplicationTable}

theorem Represents.set (h : Represents c t) (a : Application) :
    Represents (c.write (.putFields (recordKey a.app) (toFields a))) ⟨t.rows.insert a.app a⟩ where
  keyed {app b} hb := by
    rw [Std.ExtTreeMap.getElem?_insert] at hb
    split at hb
    case isTrue heq =>
      obtain rfl := Option.some.inj hb
      exact Std.LawfulEqCmp.eq_of_compare heq
    case isFalse => exact h.keyed hb
  record app := by
    rw [Std.ExtTreeMap.getElem?_insert, Contents.write]
    by_cases happ : a.app = app
    · subst happ
      simp [h.record, overlay_toFields]
    · simp [happ, recordKey_injective.ne (Ne.symm happ), h.record]
  members := h.members

theorem Represents.delete (h : Represents c t) (app : AppEui) :
    Represents (c.write (.remove (recordKey app))) ⟨t.rows.erase app⟩ where
  keyed {other b} hb := by
    rw [Std.ExtTreeMap.getElem?_erase] at hb
    split at hb
    · cases hb
    · exact h.keyed hb
  record other := by
    rw [Std.ExtTreeMap.getElem?_erase, Contents.write]
    by_cases happ : app = other
    · subst happ
      simp
    · simp [happ, recordKey_injective.ne (Ne.symm happ), h.record]
  members other := by
    rw [Contents.write]
    by_cases happ : app = other
    · subst happ
      simp
    · simp [recordKey_injective.ne (Ne.symm happ), h.members]

theorem Represents.isEmpty_record (h : Represents c t) (app : AppEui) :
    (c.record (recordKey app)).isEmpty = !t.rows.contains app := by
  rw [h.record, Std.ExtTreeMap.contains_eq_isSome_getElem?]
  cases t.rows[app]? with
  | none => simp
  | some a => simp [Std.ExtTreeMap.isEmpty_eq_false_iff, toFields_ne_empty]

section Backend

variable {σ : Type} [Backend σ]

theorem get_of_passed {r : ApplicationRecords (Refusing σ)} (h : r.backend.refusal .fields = none)
    (app : AppEui) : get r app = get (⟨r.backend.inner⟩ : ApplicationRecords σ) app := by
  have hfields : ∀ key, Backend.fields r.backend key = Backend.fields r.backend.inner key :=
    fun key => Refusing.ask_of_passed h _
  rw [get, get, hfields]

theorem set_of_passed {r : ApplicationRecords (Refusing σ)}
    (h : r.backend.refusal .putFields = none) (a : Application) :
    set r a = (set (⟨r.backend.inner⟩ : ApplicationRecords σ) a).mapState fun s =>
      ⟨{ r.backend with inner := s.backend }⟩ := by
  have hput : ∀ key m, Backend.putFields r.backend key m =
      (Backend.putFields r.backend.inner key m).mapState fun inner => { r.backend with inner } :=
    fun key m => Refusing.change_of_passed h _
  rw [set, hput]
  rfl

theorem delete_of_passed {r : ApplicationRecords (Refusing σ)}
    (h : r.backend.refusal .remove = none) (app : AppEui) :
    delete r app = (delete (⟨r.backend.inner⟩ : ApplicationRecords σ) app).mapState fun s =>
      ⟨{ r.backend with inner := s.backend }⟩ := by
  have hremove : ∀ key, Backend.remove r.backend key =
      (Backend.remove r.backend.inner key).mapState fun inner => { r.backend with inner } :=
    fun key => Refusing.change_of_passed h _
  simp only [delete, hremove, Reply.answer_mapState, Reply.state_mapState]
  cases (Backend.remove r.backend.inner (recordKey app)).answer with
  | error e => rfl
  | ok there => cases there <;> rfl

end Backend

section Tidy

variable {σ : Type} [Backend σ] [TidyBackend σ] {s : ApplicationRecords σ}

def Shows (s : ApplicationRecords σ) (t : ApplicationTable) : Prop :=
  ∃ c, LawfulBackend.Holds s.backend c ∧ TidyBackend.Tidy s.backend ∧ Represents c t

theorem Shows.get (h : s.Shows t) (app : AppEui) :
    ApplicationRecords.get s app = ApplicationStore.get t app := by
  obtain ⟨c, hs, -, hc⟩ := h
  simp only [ApplicationRecords.get, LawfulBackend.fields hs, hc.record, ApplicationStore.get]
  cases t.rows[app]? with
  | none => simp
  | some a => simp [toFields_ne_empty, ofFields_toFields]

theorem Shows.set (h : s.Shows t) (a : Application) :
    (ApplicationRecords.set s a).answer = .ok () ∧
      (ApplicationRecords.set s a).state.Shows ⟨t.rows.insert a.app a⟩ := by
  obtain ⟨c, hs, htidy, hc⟩ := h
  obtain ⟨hans, hstate, htidy'⟩ := TidyBackend.putFields hs htidy (recordKey a.app)
    (toFields_ne_empty a)
  exact ⟨congrArg (Except.mapError StoreError.backend) hans, _, hstate, htidy', hc.set a⟩

theorem Shows.delete (h : s.Shows t) (app : AppEui) :
    (ApplicationRecords.delete s app).answer = (t.delete app).answer ∧
      (ApplicationRecords.delete s app).state.Shows ⟨t.rows.erase app⟩ := by
  obtain ⟨c, hs, htidy, hc⟩ := h
  obtain ⟨hans, hstate, htidy'⟩ := TidyBackend.remove hs htidy (recordKey app)
  have hthere : (Backend.remove s.backend (recordKey app)).answer = .ok (t.rows.contains app) := by
    rw [hans, hc.isEmpty_record, hc.members]
    simp
  simp only [ApplicationRecords.delete, hthere, ApplicationTable.delete]
  cases t.rows.contains app <;> exact ⟨rfl, _, hstate, htidy', hc.delete app⟩

end Tidy

end ApplicationRecords

namespace Applications

def refusal : Applications → Method → Option BackendError
  | .table _, _ => none
  | .records r, m => r.backend.refusal m

def refusing (refused : List Method) (error : Method → BackendError) :
    Applications → Applications
  | .table t => .table t
  | .records r => .records ⟨{ r.backend with refused, error }⟩

def Shows : Applications → ApplicationTable → Prop
  | .table rows, t => rows = t
  | .records r, t => (⟨r.backend.inner⟩ : ApplicationRecords Storage).Shows t

theorem shows_inMemory : inMemory.Shows .empty := rfl

theorem shows_onStorage_memory : (onStorage (.memory .empty)).Shows .empty :=
  ⟨.empty, MemoryBackend.contents_empty, MemoryBackend.tidy_empty,
    ApplicationRecords.represents_empty⟩

theorem shows_onStorage_database : (onStorage (.database .empty)).Shows .empty :=
  ⟨.empty, Database.holds_empty, trivial, ApplicationRecords.represents_empty⟩

variable {s : Applications} {t : ApplicationTable}

theorem Shows.refusing (h : s.Shows t) (refused : List Method) (error : Method → BackendError) :
    (s.refusing refused error).Shows t := by
  cases s <;> exact h

theorem get_of_refused {e : BackendError} (he : s.refusal .fields = some e) (app : AppEui) :
    ApplicationStore.get s app = .error (.backend e) := by
  cases s with
  | table rows => cases he
  | records r =>
    have hfields : ∀ key, Backend.fields r.backend key = .error e := fun key =>
      Refusing.ask_of_refused he (Backend.fields r.backend.inner key)
    change ApplicationRecords.get r app = _
    rw [ApplicationRecords.get, hfields]

theorem Shows.get (h : s.Shows t) (hpass : s.refusal .fields = none) (app : AppEui) :
    ApplicationStore.get s app = ApplicationStore.get t app := by
  cases s with
  | table rows =>
    obtain rfl : rows = t := h
    rfl
  | records r => exact (ApplicationRecords.get_of_passed hpass app).trans (h.get app)

theorem set_of_refused {e : BackendError} (he : s.refusal .putFields = some e) (a : Application) :
    ApplicationStore.set s a = ⟨.error (.backend e), s⟩ := by
  cases s with
  | table rows => cases he
  | records r =>
    have hput : ∀ key m, Backend.putFields r.backend key m = ⟨.error e, r.backend⟩ := fun key m =>
      Refusing.change_of_refused he (Backend.putFields r.backend.inner key m)
    change Reply.mapState Applications.records (ApplicationRecords.set r a) = _
    rw [ApplicationRecords.set, hput]
    rfl

theorem Shows.set (h : s.Shows t) (hpass : s.refusal .putFields = none) (a : Application) :
    (ApplicationStore.set s a).answer = .ok () ∧
      (ApplicationStore.set s a).state.Shows ⟨t.rows.insert a.app a⟩ := by
  cases s with
  | table rows =>
    obtain rfl : rows = t := h
    exact ⟨rfl, rfl⟩
  | records r =>
    change (Reply.mapState Applications.records (ApplicationRecords.set r a)).answer = _ ∧
      (Reply.mapState Applications.records (ApplicationRecords.set r a)).state.Shows _
    rw [ApplicationRecords.set_of_passed hpass]
    exact ApplicationRecords.Shows.set h a

theorem delete_of_refused {e : BackendError} (he : s.refusal .remove = some e) (app : AppEui) :
    ApplicationStore.delete s app = ⟨.error (.backend e), s⟩ := by
  cases s with
  | table rows => cases he
  | records r =>
    have hremove : ∀ key, Backend.remove r.backend key = ⟨.error e, r.backend⟩ := fun key =>
      Refusing.change_of_refused he (Backend.remove r.backend.inner key)
    change Reply.mapState Applications.records (ApplicationRecords.delete r app) = _
    simp only [ApplicationRecords.delete, hremove]
    rfl

theorem Shows.delete (h : s.Shows t) (hpass : s.refusal .remove = none) (app : AppEui) :
    (ApplicationStore.delete s app).answer = (t.delete app).answer ∧
      (ApplicationStore.delete s app).state.Shows ⟨t.rows.erase app⟩ := by
  cases s with
  | table rows =>
    obtain rfl : rows = t := h
    exact ⟨rfl, rows.state_delete app⟩
  | records r =>
    change (Reply.mapState Applications.records (ApplicationRecords.delete r app)).answer = _ ∧
      (Reply.mapState Applications.records (ApplicationRecords.delete r app)).state.Shows _
    rw [ApplicationRecords.delete_of_passed hpass]
    exact ApplicationRecords.Shows.delete h app

end Applications

end LorawanRouting
