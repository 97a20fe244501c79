import LorawanRouting.Proofs.StoreFaults
import LorawanRouting.Proofs.StoredDevices

/-!
The index of devices after a loss. A database whose table of members was dropped and made anew has an
index that lists nothing wrong but not every device. From then on nothing wrong is ever listed, and a
device is listed again as soon as its address is written, be it the address that it has already.
-/

namespace LorawanRouting

namespace Device

variable {d : Device}

theorem decodeField_text (a : DevAddr) :
    blank.decodeField .address a.text = .ok { blank with address := a } := by
  simp [decodeField, readField?, Identifier.text_ne_empty, Identifier.ofText?_text]

theorem address_of_reads {a : DevAddr} (h : Reads a.text .address d) : d.address = a :=
  ((reads_iff_sameAt (decodeField_text a)).mp h).symm

end Device

namespace Contents
open RecordStore (deviceKey addressKey indexWrites fieldsToStore)

variable {c c₁ : Contents} {k stored : String} {d : Device} {fields : List DeviceField}

def Listed (c : Contents) : Prop :=
  ∀ ⦃stored k : String⦄, k ∈ c.members (addressKey stored) → stored ≠ "" ∧ c.address k = stored

/-- Every record of a device can be read, and what the index lists is right. -/
structure Recoverable (c : Contents) : Prop where
  readable : ∀ key, ∃ d, Device.ofFields (c.record (deviceKey key)) = .ok d
  listed : c.Listed

theorem recoverable_empty : empty.Recoverable where
  readable _ := ⟨.blank, rfl⟩
  listed _ _ h := indexed_empty.mp h

theorem Listed.change {recordKey : String} (h : c.Listed)
    (hmembers : ∀ stored, c₁.members (addressKey stored) = c.members (addressKey stored))
    (hrecord : ∀ k, k ≠ recordKey → c₁.record k = c.record k) :
    ((indexWrites recordKey (c.address recordKey) (c₁.address recordKey)).foldl write c₁).Listed := by
  intro stored k hk
  rw [mem_indexWrites, hmembers] at hk
  rw [address, record_indexWrites, ← address]
  obtain ⟨hk | ⟨hne, hnew, rfl⟩, hkept⟩ := hk
  · obtain ⟨hne, hold⟩ := h hk
    refine ⟨hne, ?_⟩
    by_cases hself : k = recordKey
    · -- Its old address is still listed, so the record was not moved.
      subst hself
      have hsame : c.address k = "" ∨ c.address k = c₁.address k := by
        by_contra hmoved
        exact hkept ⟨hmoved, hold, rfl⟩
      rcases hsame with hnone | hsame
      · exact absurd (hold.symm.trans hnone) hne
      · exact hsame.symm.trans hold
    · rw [address, hrecord k hself, ← address, hold]
  · exact ⟨hnew ▸ hne, hnew⟩

theorem Listed.set (h : c.Listed) (d : Device) (fields : List DeviceField) :
    (c.set d fields).Listed := by
  have haddress := address_putWrite c d fields
  rw [Contents.set, setWrites, List.foldl_cons]
  by_cases hnamed : .address ∈ DeviceField.orAll fields
  · rw [if_pos hnamed] at haddress
    rw [if_pos (List.contains_iff_mem.mpr hnamed), ← haddress]
    exact h.change (fun _ => rfl) fun k hk => record_putWrite fields hk
  · rw [if_neg hnamed] at haddress
    rw [if_neg (by simpa using hnamed)]
    intro stored k hk
    refine ⟨(h hk).1, ?_⟩
    by_cases hself : k = deviceKey d.key
    · subst hself
      exact haddress.trans (h hk).2
    · rw [List.foldl_nil, address, record_putWrite fields hself, ← address]
      exact (h hk).2

theorem Listed.delete (h : c.Listed) (key : DeviceKey) : (c.delete key).Listed := by
  have haddress : (c.write (.remove (deviceKey key))).address (deviceKey key) = "" := by
    simp [address, write, Device.textIn]
  rw [Contents.delete, deleteWrites, List.foldl_cons, ← haddress]
  refine h.change (fun stored => ?_) (fun k hk => ?_)
  · simp [write, (RecordStore.deviceKey_ne_addressKey key stored).symm]
  · simp [write, hk]

theorem Recoverable.set (h : c.Recoverable)
    (hfields : ∀ f ∈ DeviceField.orAll fields, d.Storable f) : (c.set d fields).Recoverable where
  readable key := by
    rw [record_set]
    by_cases hkey : deviceKey key = deviceKey d.key
    · obtain ⟨e, he⟩ := h.readable d.key
      rw [hkey, Function.update_self]
      exact ⟨_, Device.ofFields_overlay he (RecordStore.getElem?_fieldsToStore d fields)
        (Device.storable_storedFields hfields)⟩
    · rw [Function.update_of_ne hkey]
      exact h.readable key
  listed := h.listed.set d fields

theorem Recoverable.delete (h : c.Recoverable) (gone : DeviceKey) :
    (c.delete gone).Recoverable where
  readable key := by
    rw [record_delete]
    by_cases hkey : deviceKey key = deviceKey gone
    · rw [hkey, Function.update_self]
      exact ⟨.blank, rfl⟩
    · rw [Function.update_of_ne hkey]
      exact h.readable key
  listed := h.listed.delete gone

theorem Recoverable.of_fewer (h : c.Recoverable) (hrecord : c₁.record = c.record)
    (hmembers : ∀ key, ∀ k ∈ c₁.members key, k ∈ c.members key) : c₁.Recoverable where
  readable key := hrecord ▸ h.readable key
  listed stored k hk := by
    rw [address, hrecord, ← address]
    exact h.listed (hmembers _ k hk)

theorem mem_members_set (c : Contents) (hnamed : .address ∈ DeviceField.orAll fields)
    (haddress : d.encodeField .address ≠ "") :
    deviceKey d.key ∈ (c.set d fields).members (addressKey (d.encodeField .address)) := by
  rw [set, setWrites, List.foldl_cons, if_pos (List.contains_iff_mem.mpr hnamed), mem_indexWrites]
  refine ⟨Or.inr ⟨haddress, rfl, rfl⟩, fun hmoved => ?_⟩
  exact hmoved.1 (Or.inr hmoved.2.1)

theorem setWrites_of_not_named (c : Contents) (d : Device)
    (hnamed : .address ∉ DeviceField.orAll fields) : c.setWrites d fields = [putWrite d fields] := by
  rw [setWrites, if_neg (by simpa using hnamed)]

theorem exists_addsMember_setWrites (c : Contents) (hnamed : .address ∈ DeviceField.orAll fields)
    (haddress : d.encodeField .address ≠ "") :
    ∃ w ∈ c.setWrites d fields, w.addsMember = true := by
  refine ⟨.addMember (addressKey (d.encodeField .address)) (deviceKey d.key), ?_, rfl⟩
  simp only [setWrites, List.contains_iff_mem.mpr hnamed, indexWrites, haddress, if_true, if_false]
  simp

theorem ofFields_record_set (h : c.Recoverable)
    (hfields : ∀ f ∈ DeviceField.orAll fields, d.Storable f) :
    ∃ e : Device, Device.ofFields ((c.set d fields).record (deviceKey d.key)) = .ok e ∧
      e.key = d.key := by
  obtain ⟨old, hold⟩ := h.readable d.key
  have hcopied := Device.sameAt_copyFields old d (RecordStore.storedFields fields)
  have happ := hcopied .app
  have hdev := hcopied .dev
  rw [if_pos (by simp [RecordStore.storedFields])] at happ hdev
  refine ⟨old.copyFields d (RecordStore.storedFields fields), ?_, ?_⟩
  · rw [record_set, Function.update_self]
    exact Device.ofFields_overlay hold (RecordStore.getElem?_fieldsToStore d fields)
      (Device.storable_storedFields hfields)
  · rw [Device.key, Device.key, DeviceKey.mk.injEq]
    exact ⟨happ, hdev⟩

def device? (c : Contents) (k : String) : Option Device :=
  if (c.record k).isEmpty then none else (Device.ofFields (c.record k)).toOption

theorem device?_eq_some : c.device? k = some d ↔
    (c.record k).isEmpty = false ∧ Device.ofFields (c.record k) = .ok d := by
  rw [device?]
  cases (c.record k).isEmpty <;> cases Device.ofFields (c.record k) <;> simp [Except.toOption]

def listedAt (c : Contents) (a : DevAddr) : List Device :=
  (c.members (addressKey a.text)).toList.filterMap c.device?

theorem Listed.address_of_mem (h : c.Listed) {a : DevAddr} (hd : d ∈ c.listedAt a) :
    d.address = a := by
  obtain ⟨k, hk, hdevice⟩ := List.mem_filterMap.mp hd
  have htext := (h (Std.ExtTreeSet.mem_toList.mp hk)).2
  have hread := Device.ofFields_eq_ok_iff.mp (device?_eq_some.mp hdevice).2 .address
  rw [← address, htext] at hread
  exact Device.address_of_reads hread

end Contents

namespace Database

variable {rows : Std.ExtTreeMap RowKey String} {c : Contents}

theorem write_of_lost (h : Rows rows ∅ c) (w : Write) :
    write ⟨some rows, none⟩ w = none ∨ w.addsMember = false ∧ ∃ rows',
      write ⟨some rows, none⟩ w = some ⟨some rows', none⟩ ∧ Rows rows' ∅ (c.write w) := by
  cases w with
  | putFields key m =>
    obtain ⟨rows', hwrite, h'⟩ := h.upsert key m
    exact Or.inr ⟨rfl, rows', hwrite none, h'⟩
  | remove key => exact Or.inl rfl
  | addMember key member => exact Or.inl rfl
  | removeMember key member => exact Or.inl rfl

theorem foldlM_write_of_lost (h : Rows rows ∅ c) (writes : List Write) :
    writes.foldlM write ⟨some rows, none⟩ = none ∨
      (∀ w ∈ writes, w.addsMember = false) ∧ ∃ rows',
        writes.foldlM write ⟨some rows, none⟩ = some ⟨some rows', none⟩ ∧
          Rows rows' ∅ (writes.foldl Contents.write c) := by
  induction writes generalizing rows c with
  | nil => exact Or.inr ⟨by simp, rows, rfl, h⟩
  | cons w writes ih =>
    rw [List.foldlM_cons]
    rcases write_of_lost h w with hnone | ⟨hw, rows₁, hwrite, h₁⟩
    · rw [hnone]
      exact Or.inl rfl
    · rw [hwrite]
      rcases ih h₁ with hnone | ⟨hws, rows₂, hrest, h₂⟩
      · exact Or.inl hnone
      · exact Or.inr ⟨by simpa [hw] using hws, rows₂, hrest, h₂⟩

end Database

namespace Storage
open LawfulBackend (Holds)

variable {s : Storage} {c : Contents}

/-- What a storage keeps. While its table of members is missing it keeps the records alone. -/
def Keeps (s : Storage) (c : Contents) : Prop :=
  Holds s c ∨ ∃ rows, s = .database ⟨some rows, none⟩ ∧ Database.Rows rows ∅ c

theorem exists_holds_reopen (s : Storage) : ∃ c, Holds s.reopen c := by
  cases s with
  | memory kv => exact ⟨kv.contents, rfl⟩
  | database db =>
    obtain ⟨c, h⟩ := Database.exists_rows (db.fieldRows.getD ∅) (db.memberRows.getD ∅)
    exact ⟨c, _, _, rfl, h⟩

theorem holds_of_rows {rows : Std.ExtTreeMap RowKey String} {sets : Std.ExtTreeSet RowKey}
    (h : Database.Rows rows sets c) : Holds (Storage.database ⟨some rows, some sets⟩) c :=
  ⟨rows, sets, rfl, h⟩

namespace Keeps

theorem fields (h : s.Keeps c) (key : String) : Backend.fields s key = .ok (c.record key) := by
  rcases h with h | ⟨rows, rfl, h⟩
  · exact LawfulBackend.fields h key
  · exact LawfulBackend.fields (holds_of_rows h) key

theorem field (h : s.Keeps c) (key name : String) :
    Backend.field s key name = .ok (c.record key)[name]? := by
  rcases h with h | ⟨rows, rfl, h⟩
  · exact LawfulBackend.field h key name
  · exact LawfulBackend.field (holds_of_rows h) key name

theorem members (h : s.Keeps c) {key : String} {ks : List String}
    (hks : Backend.members s key = .ok ks) : ks = (c.members key).toList := by
  rcases h with h | ⟨rows, rfl, -⟩
  · rw [LawfulBackend.members h] at hks
    exact (Except.ok.inj hks).symm
  · cases hks

theorem apply (h : s.Keeps c) (writes : List Write) :
    (∃ e, Backend.apply s writes = ⟨.error e, s⟩) ∨
      (Backend.apply s writes).answer = .ok () ∧
        (Backend.apply s writes).state.Keeps (writes.foldl Contents.write c) ∧
          ((∃ w ∈ writes, w.addsMember = true) → Holds s c) := by
  rcases h with h | ⟨rows, rfl, h⟩
  · obtain ⟨hans, hstate⟩ := LawfulBackend.apply h writes
    exact Or.inr ⟨hans, Or.inl hstate, fun _ => h⟩
  · simp only [Backend.apply]
    rcases Database.foldlM_write_of_lost h writes with hnone | ⟨hws, rows', hsome, h'⟩
    · rw [hnone]
      exact Or.inl ⟨.statementFailed, rfl⟩
    · rw [hsome]
      refine Or.inr ⟨rfl, Or.inr ⟨rows', rfl, h'⟩, ?_⟩
      rintro ⟨w, hw, hadds⟩
      rw [hws w hw] at hadds
      cases hadds

theorem reopen (h : s.Keeps c) : Holds s.reopen c := by
  rcases h with h | ⟨rows, rfl, h⟩
  · cases s with
    | memory kv => exact h
    | database db =>
      obtain ⟨rows, sets, rfl, h⟩ := h
      exact holds_of_rows h
  · exact holds_of_rows h

theorem dropTable (h : s.Keeps c) :
    ∃ c₁, (s.dropTable .members).Keeps c₁ ∧ c₁.record = c.record ∧
      ∀ key, ∀ k ∈ c₁.members key, k ∈ c.members key := by
  rcases h with h | ⟨rows, rfl, h⟩
  · cases s with
    | memory kv => exact ⟨c, Or.inl h, rfl, fun _ _ hk => hk⟩
    | database db =>
      obtain ⟨rows, sets, rfl, h⟩ := h
      exact ⟨⟨c.record, fun _ => ∅⟩, Or.inr ⟨rows, rfl, h.record, by simp⟩, rfl, by simp⟩
  · exact ⟨c, Or.inr ⟨rows, rfl, h⟩, rfl, fun _ _ hk => hk⟩

end Keeps

end Storage

namespace RecordStore
open LawfulBackend (Holds)

/-- Devices can be read, and every listed key has a record with the address it is listed at. -/
structure RightIndex {σ : Type} [Backend σ] (s : RecordStore σ) : Prop where
  readable : ∀ {key m}, Backend.fields s.backend (deviceKey key) = .ok m →
    ∃ d, Device.ofFields m = .ok d
  listed : ∀ {stored k ks}, Backend.members s.backend (addressKey stored) = .ok ks → k ∈ ks →
    stored ≠ "" ∧ Backend.field s.backend k DeviceField.address.name = .ok (some stored)

variable {s : Storage} {c : Contents}

theorem rightIndex_of_keeps (h : s.Keeps c) (hc : c.Recoverable) : RightIndex ⟨s⟩ where
  readable {key m} hm := by
    rw [h.fields, Except.ok.injEq] at hm
    exact hm ▸ hc.readable key
  listed {stored k ks} hks hk := by
    rw [h.members hks, Std.ExtTreeSet.mem_toList] at hk
    obtain ⟨hne, haddress⟩ := hc.listed hk
    refine ⟨hne, ?_⟩
    rw [h.field, (address_eq_iff hne).mp haddress]

theorem recoverable_of_rightIndex (h : Holds s c) (hindex : RightIndex ⟨s⟩) : c.Recoverable where
  readable key := hindex.readable (LawfulBackend.fields h (deviceKey key))
  listed stored k hk := by
    obtain ⟨hne, htext⟩ := hindex.listed (LawfulBackend.members h (addressKey stored))
      (Std.ExtTreeSet.mem_toList.mpr hk)
    rw [LawfulBackend.field h, Except.ok.injEq] at htext
    exact ⟨hne, (address_eq_iff hne).mpr htext⟩

theorem loadAll_of_keeps (h : s.Keeps c) (ks : List String) :
    loadAll (⟨s⟩ : RecordStore Storage) ks = .ok (ks.filterMap c.device?) := by
  induction ks with
  | nil => rfl
  | cons k ks ih =>
    rw [loadAll, load, ih, List.filterMap_cons, Contents.device?]
    simp only [h.fields]
    by_cases hempty : (c.record k).isEmpty
    · simp only [hempty, if_true]
    · cases hread : Device.ofFields (c.record k) with
      | ok d => simp only [hempty, Bool.false_eq_true, if_false, Except.map, Except.toOption]
      | error err =>
        obtain ⟨f, v, -, -, rfl⟩ := Device.ofFields_error hread
        simp only [hempty, Bool.false_eq_true, if_false, Except.map, Except.toOption]

theorem byAddress_of_keeps (h : s.Keeps c) {a : DevAddr} {ds : List Device}
    (hds : byAddress (⟨s⟩ : RecordStore Storage) a = .ok ds) : ∀ d ∈ ds, d ∈ c.listedAt a := by
  intro d hd
  rw [byAddress] at hds
  split at hds
  · obtain rfl := Except.ok.inj hds
    cases hd
  · cases hks : Backend.members s (addressKey a.text) with
    | error e => simp [hks] at hds
    | ok ks =>
      simp only [hks, loadAll_of_keeps h] at hds
      obtain rfl := Except.ok.inj hds
      rw [sortByKey, List.mem_mergeSort, h.members hks] at hd
      exact hd

theorem byAddress_of_holds (h : Holds s c) {a : DevAddr} (ha : ¬ a.isZero) :
    byAddress (⟨s⟩ : RecordStore Storage) a = .ok (sortByKey (c.listedAt a)) := by
  simp only [byAddress, ha, LawfulBackend.members h, loadAll_of_keeps (Or.inl h)]
  rfl

theorem apply_of_keeps (h : s.Keeps c) (writes : List Write) :
    (∃ e, apply (⟨s⟩ : RecordStore Storage) writes = ⟨.error (.backend e), ⟨s⟩⟩) ∨
      (apply (⟨s⟩ : RecordStore Storage) writes).state.backend.Keeps
        (writes.foldl Contents.write c) ∧ ((∃ w ∈ writes, w.addsMember = true) → Holds s c) := by
  rcases h.apply writes with ⟨e, hfailed⟩ | ⟨-, hstate, hadds⟩
  · refine Or.inl ⟨e, ?_⟩
    rw [apply, hfailed]
    rfl
  · exact Or.inr ⟨hstate, hadds⟩

def Recovers (s : RecordStore Storage) : Prop := ∃ c, s.backend.Keeps c ∧ c.Recoverable

theorem Recovers.apply {writes : List Write} (h : s.Keeps c) (hc : c.Recoverable)
    (hwrites : (writes.foldl Contents.write c).Recoverable) :
    (apply (⟨s⟩ : RecordStore Storage) writes).state.Recovers := by
  rcases apply_of_keeps h writes with ⟨e, hfailed⟩ | ⟨hstate, -⟩
  · rw [hfailed]
    exact ⟨c, h, hc⟩
  · exact ⟨_, hstate, hwrites⟩

variable {s : RecordStore Storage}

theorem Recovers.run (h : s.Recovers) {call : DeviceCall} (hcall : call.Storable) :
    (call.run s).2.Recovers := by
  obtain ⟨c, hs, hc⟩ := h
  cases call with
  | get key => exact ⟨c, hs, hc⟩
  | byAddress address => exact ⟨c, hs, hc⟩
  | set d fields =>
    simp only [DeviceCall.run, DeviceStore.set, set_eq_apply (hs.field _ _)]
    exact Recovers.apply hs hc (hc.set (hcall.write (d, DeviceField.orAll fields) rfl))
  | activate key address sessionKey =>
    simp only [DeviceCall.run, DeviceStore.activate, DeviceStore.set, set_eq_apply (hs.field _ _)]
    exact Recovers.apply hs hc (hc.set (hcall.write (_, DeviceField.activation) rfl))
  | delete key =>
    simp only [DeviceCall.run, DeviceStore.delete]
    by_cases hrecord : (c.record (deviceKey key)).isEmpty
    · simp only [delete, hs.fields, hrecord, if_true]
      exact ⟨c, hs, hc⟩
    · rw [delete_eq_apply (hs.fields _) (Bool.eq_false_iff.mpr hrecord)]
      exact Recovers.apply hs hc (hc.delete key)

theorem run_of_write? {σ : Type} [Backend σ] (s : RecordStore σ) {call : DeviceCall} {d : Device}
    {fields : List DeviceField} (hwrite : call.write? = some (d, fields)) :
    DeviceField.orAll fields = fields ∧
      call.run s = (.done (set s d fields).answer, (set s d fields).state) := by
  cases call with
  | set e named =>
    obtain ⟨rfl, rfl⟩ := Prod.mk.inj (Option.some.inj hwrite)
    have hset : set s e (DeviceField.orAll named) = set s e named := by
      simp only [set, orAll_orAll]
    refine ⟨orAll_orAll named, ?_⟩
    change (DeviceAnswer.done (set s e named).answer, (set s e named).state) = _
    rw [← hset]
    rfl
  | activate key address sessionKey =>
    obtain ⟨rfl, rfl⟩ := Prod.mk.inj (Option.some.inj hwrite)
    exact ⟨rfl, rfl⟩
  | get | byAddress | delete => cases hwrite

variable {s : Storage} {d : Device} {fields : List DeviceField}

theorem holds_of_set_ok (h : s.Keeps c) (hnamed : .address ∈ DeviceField.orAll fields)
    (haddress : d.encodeField .address ≠ "")
    (hans : (set (⟨s⟩ : RecordStore Storage) d fields).answer = .ok ()) :
    Holds (set (⟨s⟩ : RecordStore Storage) d fields).state.backend (c.set d fields) := by
  rw [set_eq_apply (h.field _ _)] at hans ⊢
  rcases apply_of_keeps h (c.setWrites d fields) with ⟨e, hfailed⟩ | ⟨-, hadds⟩
  · rw [hfailed] at hans
    cases hans
  · have hholds := hadds (c.exists_addsMember_setWrites hnamed haddress)
    exact (apply_spec hholds _).2

theorem set_heals (h : s.Keeps c) (hc : c.Recoverable)
    (hfields : ∀ f ∈ DeviceField.orAll fields, d.Storable f)
    (hnamed : .address ∈ DeviceField.orAll fields) (ha : ¬ d.address.isZero)
    (hans : (set (⟨s⟩ : RecordStore Storage) d fields).answer = .ok ()) :
    let s' := (set (⟨s⟩ : RecordStore Storage) d fields).state
    (∃ ds, byAddress s' d.address = .ok ds ∧ ∃ e ∈ ds, e.key = d.key) ∧
      ∀ stored ks, Backend.members s'.backend (addressKey stored) = .ok ks →
        deviceKey d.key ∈ ks → stored = d.address.text := by
  intro s'
  have htext : d.encodeField .address = d.address.text :=
    (Device.encodeField_address_eq_text ha).mpr rfl
  have haddress : d.encodeField .address ≠ "" := htext ▸ Identifier.text_ne_empty d.address
  have hholds := holds_of_set_ok h hnamed haddress hans
  have hc' := hc.set hfields
  have hmem := c.mem_members_set hnamed haddress
  rw [htext] at hmem
  obtain ⟨e, hread, hkey⟩ := Contents.ofFields_record_set hc hfields
  refine ⟨⟨_, byAddress_of_holds hholds ha, e, ?_, hkey⟩, fun stored ks hks hlisted => ?_⟩
  · rw [sortByKey, List.mem_mergeSort]
    refine List.mem_filterMap.mpr ⟨_, Std.ExtTreeSet.mem_toList.mpr hmem, ?_⟩
    refine Contents.device?_eq_some.mpr ⟨?_, hread⟩
    rw [Contents.record_set, Function.update_self]
    exact isEmpty_overlay_fieldsToStore _ d fields
  · rw [LawfulBackend.members hholds, Except.ok.injEq] at hks
    rw [← hks, Std.ExtTreeSet.mem_toList] at hlisted
    exact (hc'.listed hlisted).2.symm.trans (hc'.listed hmem).2

theorem members_set_of_not_named (h : s.Keeps c) (hnamed : .address ∉ DeviceField.orAll fields)
    (key : String) :
    Backend.members (set (⟨s⟩ : RecordStore Storage) d fields).state.backend key =
      Backend.members s key := by
  rw [set_eq_apply (h.field _ _), c.setWrites_of_not_named d hnamed]
  rcases h with h | ⟨rows, rfl, h⟩
  · rw [LawfulBackend.members (apply_spec h _).2, LawfulBackend.members h]
    rfl
  · simp only [apply, Backend.apply]
    rcases Database.foldlM_write_of_lost h [Contents.putWrite d fields] with hnone | hsome
    · rw [hnone]
      rfl
    · obtain ⟨-, rows', hsome, -⟩ := hsome
      rw [hsome]
      rfl

theorem answer_set_of_holds (h : Holds s c) (d : Device) (fields : List DeviceField) :
    (set (⟨s⟩ : RecordStore Storage) d fields).answer = .ok () := by
  rw [set_eq_apply (LawfulBackend.field h _ _)]
  exact (apply_spec h _).1

end RecordStore

/-- What happens to a store: calls, some of whose methods may be refused, the loss of the table of
members, and the opening of the same database again. -/
inductive IndexEvent
  | call (f : RefusedCall)
  | loseIndex
  | reopen

namespace IndexEvent

def run (s : RecordStore Storage) : IndexEvent → RecordStore Storage
  | .call f => (f.run s).2
  | .loseIndex => ⟨s.backend.dropTable .members⟩
  | .reopen => ⟨s.backend.reopen⟩

def runAll (s : RecordStore Storage) (es : List IndexEvent) : RecordStore Storage := es.foldl run s

def Storable : IndexEvent → Prop
  | .call f => f.call.Storable
  | .loseIndex | .reopen => True

end IndexEvent

namespace RecordStore

variable {s : RecordStore Storage}

theorem Recovers.event (h : s.Recovers) {e : IndexEvent} (he : e.Storable) :
    (e.run s).Recovers := by
  cases e with
  | call f =>
    simp only [IndexEvent.run, RefusedCall.run_eq]
    cases (f.call.methods s).findSome? (f.refusing s.backend).refusal with
    | some err => exact h
    | none => exact h.run he
  | loseIndex =>
    obtain ⟨c, hs, hc⟩ := h
    obtain ⟨c₁, hs₁, hrecord, hmembers⟩ := hs.dropTable
    exact ⟨c₁, hs₁, hc.of_fewer hrecord hmembers⟩
  | reopen =>
    obtain ⟨c, hs, hc⟩ := h
    exact ⟨c, Or.inl hs.reopen, hc⟩

theorem Recovers.events {es : List IndexEvent} (h : s.Recovers) (hes : ∀ e ∈ es, e.Storable) :
    (IndexEvent.runAll s es).Recovers := by
  induction es generalizing s with
  | nil => exact h
  | cons e es ih => exact ih (h.event (hes e (by simp))) fun e' he' => hes e' (by simp [he'])

theorem Recovers.answer_of_reopened (h : s.Recovers) {f : RefusedCall} (hf : f.refused = [])
    {w : Device × List DeviceField} (hwrite : f.call.write? = some w) :
    (f.run (IndexEvent.reopen.run s)).1 = .done (.ok ()) := by
  obtain ⟨c, hs, -⟩ := h
  have hpassed : ∀ ms : List Method,
      ms.findSome? (f.refusing (IndexEvent.reopen.run s).backend).refusal = none := by
    intro ms
    simp [RefusedCall.refusing, Refusing.refusal, hf]
  rw [RefusedCall.run_eq, hpassed]
  simp only [(run_of_write? _ hwrite).2]
  exact congrArg DeviceAnswer.done (answer_set_of_holds hs.reopen _ _)

end RecordStore

/-- An index that is right as far as it goes stays so, and every address that is written is listed. -/
theorem index_recovers (start : Storage)
    (hstart : RecordStore.RightIndex (⟨start.reopen⟩ : RecordStore Storage))
    (es : List IndexEvent) (hes : ∀ e ∈ es, e.Storable) :
    let s := IndexEvent.runAll ⟨start.reopen⟩ es
    s.RightIndex ∧
    (∀ a ds, DeviceStore.byAddress s a = .ok ds → ∀ d ∈ ds, d.address = a) ∧
    ∀ f : RefusedCall, f.call.Storable → ∀ d fields, f.call.write? = some (d, fields) →
      let r := f.run s
      (r.1 = .done (.ok ()) → .address ∈ fields → ¬ d.address.isZero →
        (∃ ds, DeviceStore.byAddress r.2 d.address = .ok ds ∧ ∃ e ∈ ds, e.key = d.key) ∧
        ∀ stored ks, Backend.members r.2.backend (RecordStore.addressKey stored) = .ok ks →
          RecordStore.deviceKey d.key ∈ ks → stored = d.address.text) ∧
      (.address ∉ fields →
        ∀ key, Backend.members r.2.backend key = Backend.members s.backend key) := by
  intro s
  have hrecovers : s.Recovers := by
    obtain ⟨c, hc⟩ := start.exists_holds_reopen
    exact RecordStore.Recovers.events
      ⟨c, Or.inl hc, RecordStore.recoverable_of_rightIndex hc hstart⟩ hes
  obtain ⟨c, hs, hc⟩ := hrecovers
  refine ⟨RecordStore.rightIndex_of_keeps hs hc, fun a ds hds d hd => ?_, ?_⟩
  · exact hc.listed.address_of_mem (RecordStore.byAddress_of_keeps hs hds d hd)
  · intro f hf d fields hwrite r
    have hfields : ∀ g ∈ fields, d.Storable g := hf.write (d, fields) hwrite
    obtain ⟨hall, hrun⟩ := RecordStore.run_of_write? s hwrite
    have hr : r = _ := f.run_eq s
    cases hrefused : (f.call.methods s).findSome? (f.refusing s.backend).refusal with
    | some err =>
      simp only [hrefused] at hr
      refine ⟨fun hans => ?_, fun _ key => by rw [hr]⟩
      rw [hr] at hans
      cases hcall : f.call <;> simp [hcall, DeviceCall.failed] at hans
    | none =>
      simp only [hrefused, hrun] at hr
      rw [hr]
      refine ⟨fun hans hnamed ha => ?_, fun hnamed key => ?_⟩
      · exact RecordStore.set_heals hs hc (hall.symm ▸ hfields) (hall.symm ▸ hnamed) ha
          (DeviceAnswer.done.inj hans)
      · exact RecordStore.members_set_of_not_named hs (hall.symm ▸ hnamed) key

/-- The table of members is lost and made anew, and the address a device has already is written. -/
theorem index_recovers_after_loss :
    let key : DeviceKey := ⟨.zero _, .zero _⟩
    let address : DevAddr := ⟨[1, 2, 3, 4], rfl⟩
    let activate : RefusedCall := ⟨[], fun _ => .lockPoisoned, .activate key address (.zero _)⟩
    let es : List IndexEvent := [.call activate, .loseIndex, .reopen]
    let start := Storage.database .empty
    let s := IndexEvent.runAll ⟨start.reopen⟩ es
    RecordStore.RightIndex (⟨start.reopen⟩ : RecordStore Storage) ∧ (∀ e ∈ es, e.Storable) ∧
      (activate.run s).1 = .done (.ok ()) ∧ ¬ address.isZero ∧
      ∃ ds, DeviceStore.byAddress (activate.run s).2 address = .ok ds ∧ ∃ d ∈ ds, d.key = key := by
  intro key address activate es start s
  have hholds : LawfulBackend.Holds start.reopen .empty := ⟨∅, ∅, rfl, Database.rows_empty⟩
  have hstart := RecordStore.rightIndex_of_keeps (Or.inl hholds) Contents.recoverable_empty
  have hes : ∀ e ∈ es, e.Storable := by
    intro e he
    simp only [es, List.mem_cons, List.not_mem_nil, or_false] at he
    rcases he with rfl | rfl | rfl <;> trivial
  have hlost : (IndexEvent.runAll ⟨start.reopen⟩ [.call activate, .loseIndex]).Recovers := by
    refine RecordStore.Recovers.events ⟨_, Or.inl hholds, Contents.recoverable_empty⟩ ?_
    intro e he
    exact hes e (List.mem_append_left [IndexEvent.reopen] he)
  have hans : (activate.run s).1 = .done (.ok ()) := hlost.answer_of_reopened rfl rfl
  refine ⟨hstart, hes, hans, by decide, ?_⟩
  obtain ⟨-, -, hnext⟩ := index_recovers start hstart es hes
  exact ((hnext activate trivial _ _ rfl).1 hans (by decide) (by decide)).1

end LorawanRouting
