import LorawanRouting.KeyValue.Refusing
import LorawanRouting.Proofs.StoreParity

/-!
Devices over a backend that refuses some of its methods. A call either goes through as if nothing
were refused, or meets a refused method, tells its error and leaves everything as it was. So the
index stays exact through any run of refusals.
-/

namespace LorawanRouting
open OrderedMaps (Ascending)

namespace RecordStore

variable {σ : Type} [Backend σ]

def setMethods (s : RecordStore σ) (d : Device) (fields : List DeviceField) : List Method :=
  let put := Write.putFields (deviceKey d.key) (fieldsToStore d (DeviceField.orAll fields))
  if (DeviceField.orAll fields).contains .address then
    .field :: match Backend.field s.backend (deviceKey d.key) DeviceField.address.name with
      | .error _ => []
      | .ok old => Method.ofBatch
        (put :: indexWrites (deviceKey d.key) (old.getD "") (d.encodeField .address))
  else Method.ofBatch [put]

/-- The methods that a delete asks for; nothing is written if there is no record. -/
def deleteMethods (s : RecordStore σ) (key : DeviceKey) : List Method :=
  .fields :: match Backend.fields s.backend (deviceKey key) with
    | .error _ => []
    | .ok fields =>
      if fields.isEmpty then []
      else Method.ofBatch (.remove (deviceKey key) ::
        indexWrites (deviceKey key) (fields[DeviceField.address.name]?.getD "") "")

/-- The methods that a search asks for, one for each listed record after the list. -/
def byAddressMethods (s : RecordStore σ) (address : DevAddr) : List Method :=
  if address.isZero then []
  else .members :: match Backend.members s.backend (addressKey address.text) with
    | .error _ => []
    | .ok keys => keys.map fun _ => .fields

end RecordStore

/-- The methods of the backend that a call asks for, in order, if none is refused. -/
def DeviceCall.methods {σ : Type} [Backend σ] (s : RecordStore σ) : DeviceCall → List Method
  | .get _ => [.fields]
  | .byAddress address => s.byAddressMethods address
  | .set d fields => s.setMethods d fields
  | .activate key address sessionKey =>
    s.setMethods (Device.activated key address sessionKey) DeviceField.activation
  | .delete key => s.deleteMethods key

namespace RecordStore

variable {σ : Type} [Backend σ] {kv : Refusing σ}

def within (kv : Refusing σ) : RecordStore σ := ⟨kv.inner⟩

def behind (kv : Refusing σ) (s : RecordStore σ) : RecordStore (Refusing σ) :=
  ⟨{ kv with inner := s.backend }⟩

theorem load_of_refused {e : BackendError} (h : kv.refusal .fields = some e) (k : String) :
    load (⟨kv⟩ : RecordStore (Refusing σ)) k = .error (.backend e) := by
  simp only [load, Backend.fields, Refusing.ask, h]

theorem load_of_passed (h : kv.refusal .fields = none) (k : String) :
    load (⟨kv⟩ : RecordStore (Refusing σ)) k = (within kv).load k := by
  simp only [load, Backend.fields, Refusing.ask, h, within]

theorem loadAll_refusing (kv : Refusing σ) (ks : List String) :
    loadAll (⟨kv⟩ : RecordStore (Refusing σ)) ks =
      match (ks.map fun _ => Method.fields).findSome? kv.refusal with
      | some e => .error (.backend e)
      | none => (within kv).loadAll ks := by
  induction ks with
  | nil => rfl
  | cons k ks ih =>
    rw [List.map_cons, List.findSome?_cons]
    -- The refusal is met at the first record or at none.
    cases h : kv.refusal .fields with
    | some e => simp only [loadAll, load_of_refused h]
    | none =>
      have hpassed : (ks.map fun _ => Method.fields).findSome? kv.refusal = none := by
        rw [List.findSome?_eq_none_iff]
        intro m hm
        obtain ⟨_, _, rfl⟩ := List.mem_map.mp hm
        exact h
      rw [hpassed] at ih ⊢
      simp only [loadAll, load_of_passed h, ih]

theorem apply_refusing (kv : Refusing σ) (writes : List Write) :
    apply (⟨kv⟩ : RecordStore (Refusing σ)) writes =
      match (Method.ofBatch writes).findSome? kv.refusal with
      | some e => ⟨.error (.backend e), ⟨kv⟩⟩
      | none => ((within kv).apply writes).mapState (behind kv) := by
  simp only [apply, Backend.apply, Refusing.change]
  cases (Method.ofBatch writes).findSome? kv.refusal <;> rfl

theorem get_refusing (kv : Refusing σ) (key : DeviceKey) :
    get (⟨kv⟩ : RecordStore (Refusing σ)) key =
      match [Method.fields].findSome? kv.refusal with
      | some e => .error (.backend e)
      | none => (within kv).get key := by
  rw [List.findSome?_cons]
  cases h : kv.refusal .fields with
  | some e => simp only [get, load_of_refused h]
  | none => simp only [get, load_of_passed h, List.findSome?_nil]

theorem byAddress_refusing (kv : Refusing σ) (address : DevAddr) :
    byAddress (⟨kv⟩ : RecordStore (Refusing σ)) address =
      match ((within kv).byAddressMethods address).findSome? kv.refusal with
      | some e => .error (.backend e)
      | none => (within kv).byAddress address := by
  simp only [byAddress, byAddressMethods]
  by_cases hz : address.isZero
  · simp only [hz, if_true, List.findSome?_nil]
  · simp only [hz, Bool.false_eq_true, if_false, List.findSome?_cons, Backend.members, Refusing.ask]
    cases h : kv.refusal .members with
    | some e => rfl
    | none =>
      simp only [within]
      cases Backend.members kv.inner (addressKey address.text) with
      | error e => rfl
      | ok keys =>
        simp only [loadAll_refusing]
        cases (keys.map fun _ => Method.fields).findSome? kv.refusal <;> rfl

theorem set_refusing (kv : Refusing σ) (d : Device) (fields : List DeviceField) :
    set (⟨kv⟩ : RecordStore (Refusing σ)) d fields =
      match ((within kv).setMethods d fields).findSome? kv.refusal with
      | some e => ⟨.error (.backend e), ⟨kv⟩⟩
      | none => ((within kv).set d fields).mapState (behind kv) := by
  simp only [set, setMethods]
  by_cases hnamed : (DeviceField.orAll fields).contains .address
  · simp only [hnamed, if_true, List.findSome?_cons, Backend.field, Refusing.ask]
    cases h : kv.refusal .field with
    | some e => rfl
    | none =>
      simp only [within]
      cases Backend.field kv.inner (deviceKey d.key) DeviceField.address.name with
      | error e => rfl
      | ok old => exact apply_refusing kv _
  · simp only [hnamed, Bool.false_eq_true, if_false]
    exact apply_refusing kv _

theorem delete_refusing (kv : Refusing σ) (key : DeviceKey) :
    delete (⟨kv⟩ : RecordStore (Refusing σ)) key =
      match ((within kv).deleteMethods key).findSome? kv.refusal with
      | some e => ⟨.error (.backend e), ⟨kv⟩⟩
      | none => ((within kv).delete key).mapState (behind kv) := by
  simp only [delete, deleteMethods, List.findSome?_cons, Backend.fields, Refusing.ask]
  cases h : kv.refusal .fields with
  | some e => rfl
  | none =>
    simp only [within]
    cases Backend.fields kv.inner (deviceKey key) with
    | error e => rfl
    | ok fields =>
      by_cases hempty : fields.isEmpty
      · simp only [hempty, if_true]
        rfl
      · simp only [hempty, Bool.false_eq_true, if_false]
        exact apply_refusing kv _

theorem run_refusing (kv : Refusing σ) (c : DeviceCall) :
    c.run (⟨kv⟩ : RecordStore (Refusing σ)) =
      match (c.methods (within kv)).findSome? kv.refusal with
      | some e => (c.failed (.backend e), ⟨kv⟩)
      | none => ((c.run (within kv)).1, behind kv (c.run (within kv)).2) := by
  cases c with
  | get key =>
    simp only [DeviceCall.run, DeviceStore.get, get_refusing, DeviceCall.methods]
    cases [Method.fields].findSome? kv.refusal <;> rfl
  | byAddress address =>
    simp only [DeviceCall.run, DeviceStore.byAddress, byAddress_refusing, DeviceCall.methods]
    cases ((within kv).byAddressMethods address).findSome? kv.refusal <;> rfl
  | set d fields =>
    simp only [DeviceCall.run, DeviceStore.set, set_refusing, DeviceCall.methods]
    cases ((within kv).setMethods d fields).findSome? kv.refusal <;> rfl
  | activate key address sessionKey =>
    simp only [DeviceCall.run, DeviceStore.activate, DeviceStore.set, set_refusing,
      DeviceCall.methods]
    cases ((within kv).setMethods _ _).findSome? kv.refusal <;> rfl
  | delete key =>
    simp only [DeviceCall.run, DeviceStore.delete, delete_refusing, DeviceCall.methods]
    cases ((within kv).deleteMethods key).findSome? kv.refusal <;> rfl

end RecordStore

structure RefusedCall where
  refused : List Method
  error : Method → BackendError
  call : DeviceCall

namespace RefusedCall

variable {σ : Type} [Backend σ]

def refusing (f : RefusedCall) (inner : σ) : Refusing σ := ⟨f.refused, inner, f.error⟩

def run (s : RecordStore σ) (f : RefusedCall) : DeviceAnswer × RecordStore σ :=
  let r := f.call.run (⟨f.refusing s.backend⟩ : RecordStore (Refusing σ))
  (r.1, ⟨r.2.backend.inner⟩)

def runAll (s : RecordStore σ) (fs : List RefusedCall) : RecordStore σ :=
  fs.foldl (fun s f => (f.run s).2) s

theorem run_eq (s : RecordStore σ) (f : RefusedCall) :
    f.run s =
      match (f.call.methods s).findSome? (f.refusing s.backend).refusal with
      | some e => (f.call.failed (.backend e), s)
      | none => f.call.run s := by
  have hwithin : RecordStore.within (f.refusing s.backend) = s := rfl
  simp only [run, RecordStore.run_refusing, hwithin]
  cases (f.call.methods s).findSome? (f.refusing s.backend).refusal <;> rfl

theorem keep {Inv : RecordStore σ → Prop} {P : DeviceCall → Prop}
    (hstep : ∀ s c, P c → Inv s → Inv (c.run s).2) {s : RecordStore σ} {fs : List RefusedCall}
    (hfs : ∀ f ∈ fs, P f.call) (hs : Inv s) : Inv (runAll s fs) := by
  induction fs generalizing s with
  | nil => exact hs
  | cons f fs ih =>
    refine ih (fun g hg => hfs g (by simp [hg])) (?_ : Inv (run s f).2)
    rw [run_eq]
    cases (f.call.methods s).findSome? (f.refusing s.backend).refusal with
    | some e => exact hs
    | none => exact hstep s f.call (hfs f (by simp)) hs

end RefusedCall

namespace RecordStore

variable {σ : Type} [Backend σ]

/-- The records whose stored address is the same nonempty text are those its bucket lists. -/
structure ExactIndex (s : RecordStore σ) : Prop where
  buckets : ∀ stored, ∃ ks, Backend.members s.backend (addressKey stored) = .ok ks ∧ ks.Nodup ∧
    ∀ k, k ∈ ks ↔ stored ≠ "" ∧ ∃ key, deviceKey key = k ∧
      Backend.field s.backend k DeviceField.address.name = .ok (some stored)
  once : ∀ {k stored stored' ks ks'}, Backend.members s.backend (addressKey stored) = .ok ks →
    Backend.members s.backend (addressKey stored') = .ok ks' → k ∈ ks → k ∈ ks' → stored = stored'
  unlisted : ∀ {k stored ks}, Backend.field s.backend k DeviceField.address.name = .ok (some "") →
    Backend.members s.backend (addressKey stored) = .ok ks → k ∉ ks

theorem address_eq_iff {c : Contents} {k stored : String} (h : stored ≠ "") :
    c.address k = stored ↔ (c.record k)[DeviceField.address.name]? = some stored := by
  rw [Contents.address, Device.textIn]
  cases (c.record k)[DeviceField.address.name]? with
  | none => simp [h.symm]
  | some v => simp

variable [LawfulBackend σ] {s : RecordStore σ}

def Sound (s : RecordStore σ) : Prop := ∃ c, LawfulBackend.Holds s.backend c ∧ c.Sound

theorem Sound.exactIndex (h : s.Sound) : s.ExactIndex := by
  obtain ⟨c, hs, hindex, hnamed⟩ := h
  have hlisted : ∀ {k stored ks}, Backend.members s.backend (addressKey stored) = .ok ks →
      (k ∈ ks ↔ stored ≠ "" ∧ (c.record k)[DeviceField.address.name]? = some stored) := by
    intro k stored ks hks
    rw [LawfulBackend.members hs, Except.ok.injEq] at hks
    rw [← hks, Std.ExtTreeSet.mem_toList, hindex]
    exact and_congr_right address_eq_iff
  constructor
  · intro stored
    refine ⟨_, LawfulBackend.members hs _, (OrderedMaps.ascending_set_toList _).nodup, fun k => ?_⟩
    rw [hlisted (LawfulBackend.members hs _), LawfulBackend.field hs, Except.ok.injEq]
    refine and_congr_right fun _ => ⟨fun htext => ?_, fun ⟨_, _, htext⟩ => htext⟩
    by_cases hkey : ∃ key, deviceKey key = k
    · obtain ⟨key, hkey⟩ := hkey
      exact ⟨key, hkey, htext⟩
    · rw [hnamed k fun key h => hkey ⟨key, h⟩] at htext
      simp at htext
  · intro k stored stored' ks ks' hks hks' hk hk'
    have hstored := ((hlisted hks).mp hk).2
    rw [((hlisted hks').mp hk').2] at hstored
    exact (Option.some.inj hstored).symm
  · intro k stored ks hempty hks hk
    rw [LawfulBackend.field hs, Except.ok.injEq, ((hlisted hks).mp hk).2] at hempty
    exact ((hlisted hks).mp hk).1 (Option.some.inj hempty)

theorem Sound.set (h : s.Sound) (d : Device) (fields : List DeviceField) :
    (set s d fields).state.Sound := by
  obtain ⟨c, hs, hsound⟩ := h
  rw [set_eq_apply (LawfulBackend.field hs _ _)]
  exact ⟨_, (apply_spec hs _).2, hsound.set d fields⟩

theorem Sound.delete (h : s.Sound) (key : DeviceKey) : (delete s key).state.Sound := by
  obtain ⟨c, hs, hsound⟩ := h
  by_cases hrecord : (c.record (deviceKey key)).isEmpty
  · simp only [RecordStore.delete, LawfulBackend.fields hs, hrecord, if_true]
    exact ⟨c, hs, hsound⟩
  · rw [delete_eq_apply (LawfulBackend.fields hs _) (Bool.eq_false_iff.mpr hrecord)]
    exact ⟨_, (apply_spec hs _).2, hsound.delete key⟩

theorem Sound.run (h : s.Sound) (c : DeviceCall) : (c.run s).2.Sound := by
  cases c with
  | get key => exact h
  | byAddress address => exact h
  | set d fields => exact h.set d fields
  | activate key address sessionKey => exact h.set _ _
  | delete key => exact h.delete key

theorem byAddress_lists {t : DeviceTable} (h : Shows s t) (a : DevAddr) :
    ∃ ds, DeviceStore.byAddress s a = .ok ds ∧ Ascending Device.key ds ∧
      (∀ d ∈ ds, DeviceStore.get s d.key = .ok d ∧ d.address = a) ∧
      ∀ key, (∃ d ∈ ds, d.key = key) ↔ ¬ a.isZero ∧
        Backend.field s.backend (deviceKey key) DeviceField.address.name = .ok (some a.text) := by
  obtain ⟨c, hs, hc⟩ := h
  refine ⟨_, byAddress_eq_holders hs hc a, hc.keyed.ascending_holders a, fun d hd => ?_,
    fun key => ?_⟩
  · obtain ⟨hd, haddress, -⟩ := hc.keyed.mem_holders.mp hd
    refine ⟨?_, haddress⟩
    rw [simulation.get d.key ⟨c, hs, hc⟩]
    simp only [DeviceStore.get, hd]
  · by_cases ha : a.isZero
    · simp [DeviceTable.holders, ha]
    · rw [LawfulBackend.field hs, Except.ok.injEq, ← address_eq_iff (Identifier.text_ne_empty a)]
      have hlisted := hc.mem_members ha (k := deviceKey key)
      rw [hc.sound.indexed] at hlisted
      constructor
      · rintro ⟨d, hd, rfl⟩
        obtain ⟨hd, haddress, -⟩ := hc.keyed.mem_holders.mp hd
        exact ⟨ha, (hlisted.mpr ⟨d, rfl, hd, haddress⟩).2⟩
      · rintro ⟨-, htext⟩
        obtain ⟨d, hkey, hd, haddress⟩ := hlisted.mp ⟨Identifier.text_ne_empty a, htext⟩
        exact ⟨d, hc.keyed.mem_holders.mpr ⟨hd, haddress, ha⟩, deviceKey_injective hkey⟩

end RecordStore

/-- Calls during refusals, the index after any run of them, and what a search lists then. -/
theorem index_survives_refusals (start : Storage)
    (hstart : start = .memory .empty ∨ start = .database .empty) (fs : List RefusedCall) :
    let s := RefusedCall.runAll (⟨start⟩ : RecordStore Storage) fs
    (∀ f : RefusedCall, f.run s =
      match (f.call.methods s).findSome? (f.refusing s.backend).refusal with
      | some e => (f.call.failed (.backend e), s)
      | none => f.call.run s) ∧
    s.ExactIndex ∧
    ((∀ f ∈ fs, f.call.Storable) → ∀ a, ∃ ds,
      DeviceStore.byAddress s a = .ok ds ∧ Ascending Device.key ds ∧
      (∀ d ∈ ds, DeviceStore.get s d.key = .ok d ∧ d.address = a) ∧
      ∀ key, (∃ d ∈ ds, d.key = key) ↔ ¬ a.isZero ∧ Backend.field s.backend
        (RecordStore.deviceKey key) DeviceField.address.name = .ok (some a.text)) := by
  have hempty : LawfulBackend.Holds start .empty := by
    rcases hstart with rfl | rfl
    · exact MemoryBackend.contents_empty
    · exact ⟨∅, ∅, rfl, Database.rows_empty⟩
  have hsound : RecordStore.Sound (⟨start⟩ : RecordStore Storage) :=
    ⟨_, hempty, Contents.sound_empty⟩
  have htable : ∃ t, RecordStore.Shows (⟨start⟩ : RecordStore Storage) t :=
    ⟨_, _, hempty, Contents.represents_empty⟩
  intro s
  refine ⟨RefusedCall.run_eq s, ?_, fun hfs a => ?_⟩
  · have hstep : ∀ (s : RecordStore Storage) (c : DeviceCall), True →
        s.Sound → (c.run s).2.Sound := fun s c _ h => h.run c
    exact (RefusedCall.keep hstep (fun _ _ => trivial) hsound).exactIndex
  · have hstep : ∀ (s : RecordStore Storage) (c : DeviceCall), c.Storable →
        (∃ t, RecordStore.Shows s t) → ∃ t, RecordStore.Shows (c.run s).2 t := by
      intro s c hc hshown
      obtain ⟨t, h⟩ := hshown
      exact ⟨_, (RecordStore.simulation.run hc.write h).2⟩
    obtain ⟨t, hlast⟩ := RefusedCall.keep hstep hfs htable
    exact RecordStore.byAddress_lists hlast a

theorem index_survives_refusals_of_members :
    let key : DeviceKey := ⟨.zero _, .zero _⟩
    let address : DevAddr := ⟨[1, 2, 3, 4], rfl⟩
    let fs : List RefusedCall :=
      [⟨[.applyAddingMember], fun _ => .lockPoisoned, .activate key address (.zero _)⟩,
        ⟨[.members], fun _ => .statementFailed, .activate key address (.zero _)⟩]
    let s := RefusedCall.runAll (⟨.database .empty⟩ : RecordStore Storage) fs
    (Storage.database .empty = .memory .empty ∨ Storage.database .empty = .database .empty) ∧
      (∀ f ∈ fs, f.call.Storable) ∧ s.ExactIndex ∧
      ∃ ds, DeviceStore.byAddress s address = .ok ds ∧ Ascending Device.key ds := by
  intro key address fs s
  have hfs : ∀ f ∈ fs, f.call.Storable := by
    intro f hf
    simp only [fs, List.mem_cons, List.not_mem_nil, or_false] at hf
    rcases hf with rfl | rfl
    · trivial
    · trivial
  obtain ⟨-, hindex, hlists⟩ := index_survives_refusals (.database .empty) (Or.inr rfl) fs
  obtain ⟨ds, hds, hascending, -⟩ := hlists hfs address
  exact ⟨Or.inr rfl, hfs, hindex, ds, hds, hascending⟩

end LorawanRouting
