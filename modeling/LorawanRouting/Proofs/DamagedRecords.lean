import LorawanRouting.Proofs.BackendCalls
import LorawanRouting.Proofs.RecordTexts

/-!
Records of devices that are written to behind the back of their store. Any texts may be put into the
records that exist, though not into their identities and addresses. A record that cannot be read
then spoils no search and no other record, and it is written and deleted like any other.
-/

namespace LorawanRouting
open OrderedMaps (Ascending)
open RecordStore (deviceKey addressKey fieldsToStore)

/-- Texts for a record, none of them an identity or an address. -/
structure Damage where
  key : DeviceKey
  texts : FieldMap
  spares : ∀ f ∈ [DeviceField.app, .dev, .address], texts[f.name]? = none

/-- The record under a key after a call, from the one before. -/
def DeviceCall.recordAfter (key : DeviceKey) (m : FieldMap) : DeviceCall → FieldMap
  | .get _ | .byAddress _ => m
  | .set d fields =>
    if d.key = key then m.overlay (fieldsToStore d (DeviceField.orAll fields)) else m
  | .activate k address sessionKey =>
    if k = key then
      m.overlay (fieldsToStore (Device.activated k address sessionKey) DeviceField.activation)
    else m
  | .delete k => if k = key then ∅ else m

namespace Damage

variable {s : RecordStore Storage}

def write (d : Damage) : Write := .putFields (deviceKey d.key) d.texts

def hits (s : RecordStore Storage) (d : Damage) : Bool :=
  match Backend.fields s.backend (deviceKey d.key) with
  | .ok m => !m.isEmpty
  | .error _ => false

def recordAfter (key : DeviceKey) (m : FieldMap) (d : Damage) : FieldMap :=
  if d.key = key ∧ m.isEmpty = false then m.overlay d.texts else m

theorem textIn_overlay (d : Damage) (m : FieldMap) {f : DeviceField}
    (hf : f ∈ [DeviceField.app, .dev, .address]) :
    Device.textIn (m.overlay d.texts) f = Device.textIn m f := by
  rw [Device.textIn, FieldMap.getElem?_overlay, d.spares f hf]
  rfl

theorem recordAfter_of_ne {d : Damage} {key : DeviceKey} (hkey : d.key ≠ key) (m : FieldMap) :
    d.recordAfter key m = m := if_neg fun h => hkey h.1

theorem isEmpty_recordAfter (d : Damage) (key : DeviceKey) (m : FieldMap) :
    (d.recordAfter key m).isEmpty = m.isEmpty := by
  rw [recordAfter]
  split
  case isTrue h =>
    rw [h.2, Bool.eq_false_iff, ne_eq, Std.ExtTreeMap.isEmpty_iff, FieldMap.overlay_eq_empty_iff]
    rintro ⟨-, rfl⟩
    simp at h
  case isFalse => rfl

end Damage

namespace Contents

variable {c : Contents}

def damage (c : Contents) (d : Damage) : Contents :=
  if (c.record (deviceKey d.key)).isEmpty then c else c.write d.write

theorem record_damage (c : Contents) (d : Damage) (key : DeviceKey) :
    (c.damage d).record (deviceKey key) = d.recordAfter key (c.record (deviceKey key)) := by
  rw [damage, Damage.recordAfter]
  by_cases hkey : d.key = key
  · subst hkey
    cases (c.record (deviceKey d.key)).isEmpty <;> simp [Damage.write, write]
  · have hne := RecordStore.deviceKey_injective.ne (Ne.symm hkey)
    cases (c.record (deviceKey d.key)).isEmpty <;> simp [Damage.write, write, hkey, hne]

theorem record_damage_of_ne (d : Damage) {k : String} (hk : deviceKey d.key ≠ k) :
    (c.damage d).record k = c.record k := by
  rw [damage]
  split
  · rfl
  · simp [Damage.write, write, hk.symm]

theorem members_damage (c : Contents) (d : Damage) : (c.damage d).members = c.members := by
  rw [damage]
  split <;> rfl

theorem textIn_damage (c : Contents) (d : Damage) (k : String) {f : DeviceField}
    (hf : f ∈ [DeviceField.app, .dev, .address]) :
    Device.textIn ((c.damage d).record k) f = Device.textIn (c.record k) f := by
  by_cases hk : deviceKey d.key = k
  · rw [← hk, record_damage, Damage.recordAfter]
    split
    · exact d.textIn_overlay _ hf
    · rfl
  · rw [record_damage_of_ne d hk]

theorem Identified.damage (h : c.Identified) (d : Damage) : (c.damage d).Identified where
  sound := by
    refine ⟨h.sound.indexed.of_same_addresses (fun stored => ?_) (fun k => ?_), fun k hk => ?_⟩
    · rw [members_damage]
    · exact c.textIn_damage d k (by simp)
    · rw [record_damage_of_ne d (hk d.key)]
      exact h.sound.named k hk
  identities {key} hrecord f hf := by
    rw [record_damage, Damage.isEmpty_recordAfter] at hrecord
    have hspared : f ∈ [DeviceField.app, .dev, .address] := by
      simp only [List.mem_cons, List.not_mem_nil, or_false] at hf ⊢
      tauto
    rw [c.textIn_damage d _ hspared]
    exact h.identities hrecord f hf

theorem Identified.foldl_damage (h : c.Identified) (ds : List Damage) :
    (ds.foldl Contents.damage c).Identified := by
  induction ds generalizing c with
  | nil => exact h
  | cons d ds ih => exact ih (h.damage d)

theorem record_foldl_damage (c : Contents) (ds : List Damage) (key : DeviceKey) :
    (ds.foldl damage c).record (deviceKey key) =
      ds.foldl (fun m d => d.recordAfter key m) (c.record (deviceKey key)) := by
  induction ds generalizing c with
  | nil => rfl
  | cons d ds ih => rw [List.foldl_cons, ih, record_damage, List.foldl_cons]

/-- Damage neither makes nor removes records, so all of it can be checked beforehand. -/
theorem foldl_write_damage (c : Contents) (ds : List Damage) :
    ((ds.filter fun d => !(c.record (deviceKey d.key)).isEmpty).map Damage.write).foldl write c =
      ds.foldl damage c := by
  induction ds generalizing c with
  | nil => rfl
  | cons d ds ih =>
    have hkept : ∀ e : Damage, ((c.damage d).record (deviceKey e.key)).isEmpty =
        (c.record (deviceKey e.key)).isEmpty := by
      intro e
      rw [record_damage, Damage.isEmpty_recordAfter]
    have hrest := ih (c.damage d)
    simp only [hkept] at hrest
    rw [List.foldl_cons, ← hrest, List.filter_cons]
    cases hempty : (c.record (deviceKey d.key)).isEmpty with
    | true => simp [damage, hempty]
    | false => simp [damage, hempty]

end Contents

/-- What happens to a store whose records are damaged between its calls, one by one or in batches. -/
inductive RecordEvent
  | call (c : DeviceCall)
  | damage (d : Damage)
  | damageAll (ds : List Damage)

namespace RecordEvent

def run (s : RecordStore Storage) : RecordEvent → RecordStore Storage
  | .call c => (c.run s).2
  | .damage d =>
    if d.hits s then ⟨(Backend.putFields s.backend (deviceKey d.key) d.texts).state⟩ else s
  | .damageAll ds => ⟨(Backend.apply s.backend ((ds.filter (·.hits s)).map Damage.write)).state⟩

def runAll (s : RecordStore Storage) (es : List RecordEvent) : RecordStore Storage := es.foldl run s

/-- The same event without any damage to the records under other keys. -/
def sparingOthers? (key : DeviceKey) : RecordEvent → Option RecordEvent
  | .call c => some (.call c)
  | .damage d => if d.key = key then some (.damage d) else none
  | .damageAll ds => some (.damageAll (ds.filter fun d => d.key = key))

def recordAfter (key : DeviceKey) (m : FieldMap) : RecordEvent → FieldMap
  | .call c => c.recordAfter key m
  | .damage d => d.recordAfter key m
  | .damageAll ds => ds.foldl (fun m d => d.recordAfter key m) m

def recordOf (es : List RecordEvent) (key : DeviceKey) : FieldMap :=
  es.foldl (fun m e => e.recordAfter key m) ∅

theorem recordAfter_filter (key : DeviceKey) (m : FieldMap) (ds : List Damage) :
    (ds.filter fun d => d.key = key).foldl (fun m d => d.recordAfter key m) m =
      ds.foldl (fun m d => d.recordAfter key m) m := by
  rw [List.foldl_filter]
  refine List.foldl_ext _ _ m fun m d _ => ?_
  by_cases hkey : d.key = key
  · simp [hkey]
  · simp [hkey, Damage.recordAfter_of_ne hkey]

theorem recordOf_sparingOthers (es : List RecordEvent) (key : DeviceKey) :
    recordOf (es.filterMap (·.sparingOthers? key)) key = recordOf es key := by
  rw [recordOf, List.foldl_filterMap]
  refine List.foldl_ext _ _ _ fun m e _ => ?_
  cases e with
  | call c => rfl
  | damage d =>
    by_cases hkey : d.key = key
    · simp [sparingOthers?, hkey]
    · simp [sparingOthers?, hkey, recordAfter, Damage.recordAfter_of_ne hkey]
  | damageAll ds => exact recordAfter_filter key m ds

end RecordEvent

namespace Storage
open LawfulBackend (Holds)

theorem holds_putFields {s : Storage} {c : Contents} (h : Holds s c) (key : String) (m : FieldMap) :
    Holds (Backend.putFields s key m).state (c.write (.putFields key m)) := by
  cases s with
  | memory kv =>
    obtain rfl : kv.contents = c := h
    exact kv.contents_write (.putFields key m)
  | database db => exact (Database.commit_write h () (.putFields key m)).2

end Storage

namespace RecordStore
open LawfulBackend (Holds)

variable {s : RecordStore Storage} {records : DeviceKey → FieldMap}

def Readable (m : FieldMap) : Prop :=
  ∀ f v, m[DeviceField.name f]? = some v → ∃ b, Device.blank.decodeField f v = .ok b

/-- What a store answers from its records, whether they can be read or not. -/
structure Quarantines (s : RecordStore Storage) (records : DeviceKey → FieldMap) : Prop where
  fields : ∀ key, Backend.fields s.backend (deviceKey key) = .ok (records key)
  index : s.ExactIndex
  search : ∀ a, ∃ ds, DeviceStore.byAddress s a = .ok ds ∧ Ascending Device.key ds ∧
    (∀ d ∈ ds, DeviceStore.get s d.key = .ok d ∧ d.address = a) ∧
    ∀ key, (∃ d ∈ ds, d.key = key) ↔
      ¬ a.isZero ∧ (records key)[DeviceField.address.name]? = some a.text ∧ Readable (records key)
  missing : ∀ key, records key = ∅ → DeviceStore.get s key = .error .notFound
  read : ∀ key, records key ≠ ∅ → Readable (records key) → ∃ d,
    DeviceStore.get s key = .ok d ∧ d.key = key ∧
      ∀ f, Device.Reads (Device.textIn (records key) f) f d
  refused : ∀ key, ¬ Readable (records key) → ∃ f v, (records key)[DeviceField.name f]? = some v ∧
    Device.blank.decodeField f v = .error (.invalidField f.name v) ∧
      DeviceStore.get s key = .error (.invalidField f.name v)

def Recorded (s : RecordStore Storage) (records : DeviceKey → FieldMap) : Prop :=
  ∃ c, Holds s.backend c ∧ c.Identified ∧ ∀ key, c.record (deviceKey key) = records key

namespace Recorded

theorem run (h : s.Recorded records) (call : DeviceCall) :
    (call.run s).2.Recorded fun key => call.recordAfter key (records key) := by
  obtain ⟨c, hs, hc, hrecords⟩ := h
  simp only [← hrecords]
  cases call with
  | get key => exact ⟨c, hs, hc, fun _ => rfl⟩
  | byAddress a => exact ⟨c, hs, hc, fun _ => rfl⟩
  | set d fields =>
    simp only [DeviceCall.run, DeviceStore.set, set_eq_apply (LawfulBackend.field hs _ _)]
    exact ⟨_, (apply_spec hs _).2, hc.set d fields, c.record_set_deviceKey d fields⟩
  | activate k address sessionKey =>
    simp only [DeviceCall.run, DeviceStore.activate, DeviceStore.set,
      set_eq_apply (LawfulBackend.field hs _ _)]
    exact ⟨_, (apply_spec hs _).2, hc.set _ _, c.record_set_deviceKey _ _⟩
  | delete gone =>
    simp only [DeviceCall.run, DeviceStore.delete]
    by_cases hempty : (c.record (deviceKey gone)).isEmpty
    · simp only [delete, LawfulBackend.fields hs, hempty, if_true]
      refine ⟨c, hs, hc, fun key => ?_⟩
      -- nothing was there to be deleted
      by_cases hkey : gone = key
      · subst hkey
        simpa [DeviceCall.recordAfter] using hempty
      · simp [DeviceCall.recordAfter, hkey]
    · rw [delete_eq_apply (LawfulBackend.fields hs _) (Bool.eq_false_iff.mpr hempty)]
      exact ⟨_, (apply_spec hs _).2, hc.delete gone, c.record_delete_deviceKey gone⟩

theorem event (h : s.Recorded records) (e : RecordEvent) :
    (e.run s).Recorded fun key => e.recordAfter key (records key) := by
  cases e with
  | call call => exact h.run call
  | damage d =>
    obtain ⟨c, hs, hc, hrecords⟩ := h
    refine ⟨c.damage d, ?_, hc.damage d, fun key => ?_⟩
    · simp only [RecordEvent.run, Damage.hits, LawfulBackend.fields hs, Contents.damage]
      cases (c.record (deviceKey d.key)).isEmpty with
      | true => exact hs
      | false => exact Storage.holds_putFields hs _ _
    · rw [Contents.record_damage, hrecords]
      rfl
  | damageAll ds =>
    obtain ⟨c, hs, hc, hrecords⟩ := h
    refine ⟨ds.foldl Contents.damage c, ?_, hc.foldl_damage ds, fun key => ?_⟩
    · have hhits : ds.filter (·.hits s) =
          ds.filter fun d => !(c.record (deviceKey d.key)).isEmpty := by
        simp only [Damage.hits, LawfulBackend.fields hs]
      rw [← c.foldl_write_damage, ← hhits]
      exact (LawfulBackend.apply hs _).2
    · rw [Contents.record_foldl_damage, hrecords]
      rfl

theorem events (h : s.Recorded records) (es : List RecordEvent) :
    (RecordEvent.runAll s es).Recorded fun key =>
      es.foldl (fun m e => e.recordAfter key m) (records key) := by
  induction es generalizing s records with
  | nil => exact h
  | cons e es ih => exact ih (h.event e)

theorem get_eq (h : s.Recorded records) (key : DeviceKey) :
    DeviceStore.get s key =
      if (records key).isEmpty then .error .notFound else Device.ofFields (records key) := by
  obtain ⟨c, hs, -, hrecords⟩ := h
  rw [← hrecords]
  exact get_of_holds hs key

theorem get_of_readable (h : s.Recorded records) {key : DeviceKey} (hrecord : records key ≠ ∅)
    (hreadable : Readable (records key)) : ∃ d, DeviceStore.get s key = .ok d ∧ d.key = key ∧
      ∀ f, Device.Reads (Device.textIn (records key) f) f d := by
  have hget := h.get_eq key
  obtain ⟨c, -, hc, hrecords⟩ := h
  obtain ⟨d, hd⟩ := Device.exists_ofFields_iff.mpr hreadable
  have hfull : (records key).isEmpty = false := Std.ExtTreeMap.isEmpty_eq_false_iff.mpr hrecord
  rw [hfull, if_neg Bool.false_ne_true, hd] at hget
  have htexts := Device.ofFields_eq_ok_iff.mp hd
  rw [← hrecords] at hfull hd
  exact ⟨d, hget, Device.key_of_read hd (hc.identities hfull), htexts⟩

theorem get_of_damaged (h : s.Recorded records) {key : DeviceKey}
    (hdamaged : ¬ Readable (records key)) : ∃ f v, (records key)[DeviceField.name f]? = some v ∧
      Device.blank.decodeField f v = .error (.invalidField f.name v) ∧
        DeviceStore.get s key = .error (.invalidField f.name v) := by
  have hfull : (records key).isEmpty = false := by
    refine Std.ExtTreeMap.isEmpty_eq_false_iff.mpr fun hempty => hdamaged ?_
    simp [Readable, hempty]
  rw [h.get_eq, hfull, if_neg Bool.false_ne_true]
  cases hd : Device.ofFields (records key) with
  | ok d => exact absurd (Device.exists_ofFields_iff.mp ⟨d, hd⟩) hdamaged
  | error err =>
    obtain ⟨f, v, hv, hrefused, rfl⟩ := Device.ofFields_error hd
    exact ⟨f, v, hv, hrefused, rfl⟩

theorem search (h : s.Recorded records) (a : DevAddr) :
    ∃ ds, DeviceStore.byAddress s a = .ok ds ∧ Ascending Device.key ds ∧
      (∀ d ∈ ds, DeviceStore.get s d.key = .ok d ∧ d.address = a) ∧
      ∀ key, (∃ d ∈ ds, d.key = key) ↔ ¬ a.isZero ∧
        (records key)[DeviceField.address.name]? = some a.text ∧ Readable (records key) := by
  have ⟨c, hs, hc, hrecords⟩ := h
  obtain ⟨ds, hds, hascending, hmem⟩ := byAddress_of_identified hs hc a
  have hread : ∀ d ∈ ds, Device.ofFields (c.record (deviceKey d.key)) = .ok d := fun d hd =>
    (Contents.device?_eq_some.mp ((get_eq_ok_iff hs).mp ((hmem d).mp hd).2.2)).2
  refine ⟨ds, hds, hascending, fun d hd => ?_, fun key => ?_⟩
  · obtain ⟨-, haddress, hfound⟩ := (hmem d).mp hd
    have htext := Device.ofFields_eq_ok_iff.mp (hread d hd) .address
    rw [← Contents.address, haddress] at htext
    exact ⟨hfound, Device.address_of_reads htext⟩
  · rw [← hrecords, ← address_eq_iff (Identifier.text_ne_empty a)]
    constructor
    · rintro ⟨d, hd, rfl⟩
      obtain ⟨ha, haddress, -⟩ := (hmem d).mp hd
      exact ⟨ha, haddress, Device.exists_ofFields_iff.mp ⟨d, hread d hd⟩⟩
    · rintro ⟨ha, haddress, hreadable⟩
      have hrecord : records key ≠ ∅ := by
        intro hempty
        rw [Contents.address, hrecords, hempty] at haddress
        exact Identifier.text_ne_empty a haddress.symm
      obtain ⟨d, hfound, rfl, -⟩ := h.get_of_readable hrecord (hrecords key ▸ hreadable)
      exact ⟨d, (hmem d).mpr ⟨ha, haddress, hfound⟩, rfl⟩

theorem quarantines (h : s.Recorded records) : s.Quarantines records where
  fields key := by
    obtain ⟨c, hs, -, hrecords⟩ := h
    rw [LawfulBackend.fields hs, hrecords]
  index := by
    obtain ⟨c, hs, hc, -⟩ := h
    exact Sound.exactIndex ⟨c, hs, hc.sound⟩
  search := h.search
  missing key hrecord := by
    rw [h.get_eq, hrecord]
    rfl
  read _ := h.get_of_readable
  refused _ := h.get_of_damaged

theorem answer_set (h : s.Recorded records) (d : Device) (fields : List DeviceField) :
    (DeviceStore.set s d fields).answer = .ok () := by
  obtain ⟨c, hs, -⟩ := h
  exact answer_set_of_holds hs d fields

theorem answer_delete (h : s.Recorded records) {key : DeviceKey} (hrecord : records key ≠ ∅) :
    (DeviceStore.delete s key).answer = .ok () ∧
      DeviceStore.get (DeviceStore.delete s key).state key = .error .notFound := by
  have hget := (h.run (.delete key)).quarantines.missing key (if_pos rfl)
  obtain ⟨c, hs, -, hrecords⟩ := h
  have hfull : (c.record (deviceKey key)).isEmpty = false := by
    rw [hrecords]
    exact Std.ExtTreeMap.isEmpty_eq_false_iff.mpr hrecord
  refine ⟨?_, hget⟩
  simp only [DeviceStore.delete]
  rw [delete_eq_apply (LawfulBackend.fields hs _) hfull]
  exact (apply_spec hs _).1

theorem get_set_all (h : s.Recorded records) {d : Device} {fields : List DeviceField}
    (hall : ∀ f, f ∈ DeviceField.orAll fields) (hd : d.Storable .lastSeen) :
    DeviceStore.get (DeviceStore.set s d fields).state d.key = .ok d := by
  have hget := (h.run (.set d fields)).get_eq d.key
  simp only [DeviceCall.recordAfter, if_true] at hget
  refine hget.trans ?_
  rw [isEmpty_overlay_fieldsToStore, if_neg Bool.false_ne_true, Device.ofFields_eq_ok_iff]
  intro f
  have hstored : f ∈ storedFields fields := List.mem_append_left _ (hall f)
  rw [textIn_overlay_fieldsToStore, if_pos hstored]
  exact Device.reads_encodeField fun _ => hd rfl

end Recorded

end RecordStore

/-- What a store does with records that others have damaged, whatever happened to it before. -/
theorem damaged_records_are_quarantined (start : Storage)
    (hstart : start = .memory .empty ∨ start = .database .empty) (es : List RecordEvent) :
    let s := RecordEvent.runAll ⟨start⟩ es
    let records := RecordEvent.recordOf es
    s.Quarantines records ∧
    (∀ key, DeviceStore.get s key = DeviceStore.get
      (RecordEvent.runAll ⟨start⟩ (es.filterMap (·.sparingOthers? key))) key) ∧
    (∀ c : DeviceCall, (c.run s).2.Quarantines fun key => c.recordAfter key (records key)) ∧
    (∀ d fields, (DeviceStore.set s d fields).answer = .ok ()) ∧
    (∀ key address sessionKey, (DeviceStore.activate s key address sessionKey).answer = .ok ()) ∧
    (∀ key, records key ≠ ∅ → (DeviceStore.delete s key).answer = .ok () ∧
      DeviceStore.get (DeviceStore.delete s key).state key = .error .notFound) ∧
    ∀ d fields, (∀ f, f ∈ DeviceField.orAll fields) → (∀ t ∈ d.lastSeen, Rfc3339.HasPlainYear t) →
      DeviceStore.get (DeviceStore.set s d fields).state d.key = .ok d := by
  have hempty : LawfulBackend.Holds start .empty := by
    rcases hstart with rfl | rfl
    · exact MemoryBackend.contents_empty
    · exact Database.holds_empty
  have hrecorded : ∀ es, (RecordEvent.runAll ⟨start⟩ es).Recorded (RecordEvent.recordOf es) :=
    RecordStore.Recorded.events ⟨_, hempty, Contents.identified_empty, fun _ => rfl⟩
  intro s records
  have hs : s.Recorded records := hrecorded es
  refine ⟨hs.quarantines, fun key => ?_, fun c => (hs.run c).quarantines, hs.answer_set,
    fun key address sessionKey => hs.answer_set _ _, fun key => hs.answer_delete,
    fun d fields hall hd => hs.get_set_all hall fun _ => hd⟩
  rw [hs.get_eq, (hrecorded _).get_eq, RecordEvent.recordOf_sparingOthers]

theorem damaged_counter_is_quarantined :
    let key : DeviceKey := ⟨.zero _, .zero _⟩
    let address : DevAddr := ⟨[1, 2, 3, 4], rfl⟩
    let damage : Damage := ⟨key, .ofList [("f_cnt_up", "many")], by decide⟩
    let es : List RecordEvent := [.call (.activate key address (.zero _)), .damage damage]
    let s := RecordEvent.runAll ⟨.database .empty⟩ es
    let repaired : Device := { Device.new key with address, counterUp := 7 }
    (Storage.database .empty = .memory .empty ∨ Storage.database .empty = .database .empty) ∧
      (∃ f v, DeviceStore.get s key = .error (.invalidField f v)) ∧
      (∃ ds, DeviceStore.byAddress s address = .ok ds ∧ ∀ d ∈ ds, d.key ≠ key) ∧
      (∀ f, f ∈ DeviceField.orAll []) ∧ (∀ t ∈ repaired.lastSeen, Rfc3339.HasPlainYear t) ∧
      DeviceStore.get (DeviceStore.set s repaired []).state key = .ok repaired := by
  intro key address damage es s repaired
  have hdamaged : ¬ RecordStore.Readable (RecordEvent.recordOf es key) := by
    intro hreadable
    have htext : (RecordEvent.recordOf es key)[DeviceField.counterUp.name]? = some "many" := by
      decide +kernel
    have hrefused : Device.blank.decodeField .counterUp "many" =
        .error (.invalidField "f_cnt_up" "many") := by decide +kernel
    obtain ⟨b, hb⟩ := hreadable .counterUp "many" htext
    rw [hrefused] at hb
    cases hb
  have hall : ∀ f, f ∈ DeviceField.orAll [] := by
    intro f
    cases f <;> decide
  have hnone : ∀ t ∈ repaired.lastSeen, Rfc3339.HasPlainYear t := by
    intro t ht
    cases ht
  obtain ⟨hs, -, -, -, -, -, hset⟩ :=
    damaged_records_are_quarantined (.database .empty) (Or.inr rfl) es
  obtain ⟨f, v, -, -, hget⟩ := hs.refused key hdamaged
  obtain ⟨ds, hds, -, -, hfound⟩ := hs.search address
  refine ⟨Or.inr rfl, ⟨_, _, hget⟩, ⟨ds, hds, fun d hd hkey => ?_⟩, hall, hnone,
    hset repaired [] hall hnone⟩
  exact hdamaged ((hfound key).mp ⟨d, hd, hkey⟩).2.2

end LorawanRouting
