import LorawanRouting.Proofs.ApplicationCalls
import LorawanRouting.Proofs.RecordStore

/-!
A store of devices and a store of applications over one backend. Each writes under keys of its own
and reads no others, so that neither can tell whether the other is there.
-/

namespace LorawanRouting
open RecordStore (deviceKey addressKey)
open ApplicationRecords (recordKey)

theorem recordKey_eq (app : AppEui) : recordKey app = "application:" ++ app.text := rfl

theorem deviceKey_ne_recordKey (key : DeviceKey) (app : AppEui) : deviceKey key ≠ recordKey app := by
  intro h
  have hlist := congrArg (fun s => s.toList.take 1) h
  simp only [RecordStore.deviceKey_eq, recordKey_eq, String.toList_append, List.append_assoc] at hlist
  rw [List.take_append_of_le_length (by decide), List.take_append_of_le_length (by decide)] at hlist
  exact absurd hlist (by decide)

theorem addressKey_ne_recordKey (stored : String) (app : AppEui) :
    addressKey stored ≠ recordKey app := by
  intro h
  have hlist := congrArg (fun s => s.toList.take 1) h
  simp only [RecordStore.addressKey_eq, recordKey_eq, String.toList_append] at hlist
  rw [List.take_append_of_le_length (by decide), List.take_append_of_le_length (by decide)] at hlist
  exact absurd hlist (by decide)

def deviceKeys : Set String := Set.range deviceKey ∪ Set.range addressKey

def applicationKeys : Set String := Set.range recordKey

theorem deviceKeys_disjoint : ∀ key ∈ deviceKeys, key ∉ applicationKeys := by
  rintro _ (⟨key, rfl⟩ | ⟨stored, rfl⟩) ⟨app, happ⟩
  · exact deviceKey_ne_recordKey key app happ.symm
  · exact addressKey_ne_recordKey stored app happ.symm

theorem deviceKey_mem (key : DeviceKey) : deviceKey key ∈ deviceKeys := Or.inl ⟨key, rfl⟩

theorem addressKey_mem (stored : String) : addressKey stored ∈ deviceKeys := Or.inr ⟨stored, rfl⟩

theorem recordKey_mem (app : AppEui) : recordKey app ∈ applicationKeys := ⟨app, rfl⟩

def Write.key : Write → String
  | .putFields key _ | .remove key | .addMember key _ | .removeMember key _ => key

namespace Contents

variable {K : Set String} {c d : Contents} {writes : List Write}

def Agree (K : Set String) (c d : Contents) : Prop :=
  ∀ k ∈ K, c.record k = d.record k ∧ c.members k = d.members k

theorem Agree.refl (K : Set String) (c : Contents) : Agree K c c := fun _ _ => ⟨rfl, rfl⟩

theorem write_of_ne (c : Contents) {w : Write} {k : String} (h : k ≠ w.key) :
    (c.write w).record k = c.record k ∧ (c.write w).members k = c.members k := by
  cases w <;> simp_all [write, Write.key]

theorem Agree.write (h : Agree K c d) (w : Write) : Agree K (c.write w) (d.write w) := by
  intro k hk
  obtain ⟨hrecord, hmembers⟩ := h k hk
  by_cases hkey : k = w.key
  · subst hkey
    cases w <;> simp_all [Contents.write, Write.key]
  · rw [(c.write_of_ne hkey).1, (c.write_of_ne hkey).2, (d.write_of_ne hkey).1,
      (d.write_of_ne hkey).2]
    exact ⟨hrecord, hmembers⟩

theorem Agree.foldl_write (h : Agree K c d) (writes : List Write) :
    Agree K (writes.foldl Contents.write c) (writes.foldl Contents.write d) := by
  induction writes generalizing c d with
  | nil => exact h
  | cons w writes ih => exact ih (h.write w)

theorem Agree.of_apart (h : Agree K c d) (hwrites : ∀ w ∈ writes, w.key ∉ K) :
    Agree K (writes.foldl Contents.write c) d := by
  induction writes generalizing c with
  | nil => exact h
  | cons w writes ih =>
    refine ih (fun k hk => ?_) fun v hv => hwrites v (by simp [hv])
    obtain ⟨hrecord, hmembers⟩ := c.write_of_ne (w := w) (k := k) fun hkey =>
      hwrites w (by simp) (hkey ▸ hk)
    rw [hrecord, hmembers]
    exact h k hk

theorem key_mem_of_indexWrites {recordKey old new : String} :
    ∀ w ∈ RecordStore.indexWrites recordKey old new, w.key ∈ deviceKeys ∧ w.Filled := by
  intro w hw
  rw [RecordStore.indexWrites, List.mem_append] at hw
  rcases hw with hw | hw
  all_goals
    split at hw
    · cases hw
    · obtain rfl := List.mem_singleton.mp hw
      exact ⟨addressKey_mem _, trivial⟩

theorem fieldsToStore_ne_empty (e : Device) (fields : List DeviceField) :
    RecordStore.fieldsToStore e (DeviceField.orAll fields) ≠ ∅ := by
  intro hempty
  have hoverlay := RecordStore.isEmpty_overlay_fieldsToStore ∅ e fields
  rw [hempty, Std.ExtTreeMap.isEmpty_eq_false_iff] at hoverlay
  exact hoverlay (FieldMap.overlay_eq_empty_iff.mpr ⟨rfl, rfl⟩)

theorem key_mem_of_setWrites {e : Device} {fields : List DeviceField} :
    ∀ w ∈ c.setWrites e fields, w.key ∈ deviceKeys ∧ w.Filled := by
  intro w hw
  rcases List.mem_cons.mp hw with rfl | hw
  · exact ⟨deviceKey_mem e.key, fieldsToStore_ne_empty e fields⟩
  · split at hw
    · exact key_mem_of_indexWrites w hw
    · cases hw

theorem key_mem_of_deleteWrites {key : DeviceKey} :
    ∀ w ∈ c.deleteWrites key, w.key ∈ deviceKeys ∧ w.Filled := by
  intro w hw
  rcases List.mem_cons.mp hw with rfl | hw
  · exact ⟨deviceKey_mem key, trivial⟩
  · exact key_mem_of_indexWrites w hw

theorem Agree.address (h : Agree deviceKeys c d) (key : DeviceKey) :
    c.address (deviceKey key) = d.address (deviceKey key) := by
  rw [Contents.address, Contents.address, (h _ (deviceKey_mem key)).1]

theorem Agree.setWrites (h : Agree deviceKeys c d) (e : Device) (fields : List DeviceField) :
    c.setWrites e fields = d.setWrites e fields := by
  rw [Contents.setWrites, Contents.setWrites, h.address]

theorem Agree.deleteWrites (h : Agree deviceKeys c d) (key : DeviceKey) :
    c.deleteWrites key = d.deleteWrites key := by
  rw [Contents.deleteWrites, Contents.deleteWrites, h.address]

end Contents

theorem RecordStore.loadAll_congr {σ : Type} [Backend σ] {s t : RecordStore σ} {ks : List String}
    (h : ∀ k ∈ ks, s.load k = t.load k) : s.loadAll ks = t.loadAll ks := by
  induction ks with
  | nil => rfl
  | cons k ks ih =>
    simp only [loadAll, h k (by simp), ih fun l hl => h l (by simp [hl])]

section Calls
open LawfulBackend (Holds)
open TidyBackend (Tidy)
open Contents (Agree)

variable {σ : Type} [Backend σ] [TidyBackend σ] {K : Set String} {writes : List Write}
  {s s' t t' : σ} {c d : Contents}

structure Wrote (K : Set String) (writes : List Write) (s s' : σ) : Prop where
  keys : ∀ w ∈ writes, w.key ∈ K
  kept : ∀ {c}, Holds s c → Tidy s → Holds s' (writes.foldl Contents.write c) ∧ Tidy s'

theorem Wrote.nil : Wrote K [] s s := ⟨fun _ hw => (List.not_mem_nil hw).elim, fun hs ht => ⟨hs, ht⟩⟩

theorem Wrote.apply (hwrites : ∀ w ∈ writes, w.key ∈ K ∧ w.Filled) :
    Wrote K writes s (Backend.apply s writes).state where
  keys w hw := (hwrites w hw).1
  kept hs ht := ⟨(LawfulBackend.apply hs writes).2,
    TidyBackend.tidy_apply ht fun w hw => (hwrites w hw).2⟩

namespace RecordStore

theorem load_congr (hs : Holds s c) (ht : Holds t d) (h : Agree deviceKeys c d) (key : DeviceKey) :
    load (⟨s⟩ : RecordStore σ) (deviceKey key) = load ⟨t⟩ (deviceKey key) := by
  simp only [load, LawfulBackend.fields hs, LawfulBackend.fields ht, (h _ (deviceKey_mem key)).1]

theorem byAddress_congr (hs : Holds s c) (ht : Holds t d) (hd : d.Sound) (h : Agree deviceKeys c d)
    (a : DevAddr) : byAddress (⟨s⟩ : RecordStore σ) a = byAddress ⟨t⟩ a := by
  have hload : loadAll (⟨s⟩ : RecordStore σ) (d.members (addressKey a.text)).toList =
      loadAll ⟨t⟩ (d.members (addressKey a.text)).toList := by
    refine loadAll_congr fun k hk => ?_
    obtain ⟨key, rfl⟩ := hd.exists_deviceKey (Std.ExtTreeSet.mem_toList.mp hk)
    exact load_congr hs ht h key
  simp only [byAddress, LawfulBackend.members hs, LawfulBackend.members ht,
    (h _ (addressKey_mem a.text)).2, hload]

theorem set_congr (hs : Holds s c) (ht : Holds t d) (hd : d.Sound) (h : Agree deviceKeys c d)
    (e : Device) (fields : List DeviceField) :
    (set (⟨s⟩ : RecordStore σ) e fields).answer = (set (⟨t⟩ : RecordStore σ) e fields).answer ∧
    ∃ writes, Wrote deviceKeys writes s (set ⟨s⟩ e fields).state.backend ∧
      Wrote deviceKeys writes t (set ⟨t⟩ e fields).state.backend ∧
      (writes.foldl Contents.write d).Sound := by
  rw [set_eq_apply (LawfulBackend.field hs _ _), set_eq_apply (LawfulBackend.field ht _ _),
    h.setWrites]
  refine ⟨?_, d.setWrites e fields, ?_, ?_, hd.set e fields⟩
  · rw [(apply_spec hs _).1, (apply_spec ht _).1]
  · exact Wrote.apply Contents.key_mem_of_setWrites
  · exact Wrote.apply Contents.key_mem_of_setWrites

theorem delete_congr (hs : Holds s c) (ht : Holds t d) (hd : d.Sound) (h : Agree deviceKeys c d)
    (key : DeviceKey) :
    (delete (⟨s⟩ : RecordStore σ) key).answer = (delete (⟨t⟩ : RecordStore σ) key).answer ∧
    ∃ writes, Wrote deviceKeys writes s (delete ⟨s⟩ key).state.backend ∧
      Wrote deviceKeys writes t (delete ⟨t⟩ key).state.backend ∧
      (writes.foldl Contents.write d).Sound := by
  have hrecord := (h _ (deviceKey_mem key)).1
  cases hempty : (d.record (deviceKey key)).isEmpty with
  | true =>
    simp only [delete, LawfulBackend.fields hs, LawfulBackend.fields ht, hrecord, hempty, if_true]
    exact ⟨trivial, [], .nil, .nil, hd⟩
  | false =>
    rw [delete_eq_apply (LawfulBackend.fields hs _) (hrecord ▸ hempty),
      delete_eq_apply (LawfulBackend.fields ht _) hempty, h.deleteWrites]
    refine ⟨?_, d.deleteWrites key, ?_, ?_, hd.delete key⟩
    · rw [(apply_spec hs _).1, (apply_spec ht _).1]
    · exact Wrote.apply Contents.key_mem_of_deleteWrites
    · exact Wrote.apply Contents.key_mem_of_deleteWrites

theorem run_congr (hs : Holds s c) (ht : Holds t d) (hd : d.Sound) (h : Agree deviceKeys c d)
    (call : DeviceCall) :
    (call.run (⟨s⟩ : RecordStore σ)).1 = (call.run (⟨t⟩ : RecordStore σ)).1 ∧
    ∃ writes, Wrote deviceKeys writes s (call.run (⟨s⟩ : RecordStore σ)).2.backend ∧
      Wrote deviceKeys writes t (call.run (⟨t⟩ : RecordStore σ)).2.backend ∧
      (writes.foldl Contents.write d).Sound := by
  cases call with
  | get key =>
    refine ⟨congrArg DeviceAnswer.device ?_, [], .nil, .nil, hd⟩
    simp only [DeviceStore.get, get, load_congr hs ht h]
  | byAddress a =>
    exact ⟨congrArg DeviceAnswer.devices (byAddress_congr hs ht hd h a), [], .nil, .nil, hd⟩
  | set e fields =>
    obtain ⟨hans, hwrites⟩ := set_congr hs ht hd h e fields
    exact ⟨congrArg DeviceAnswer.done hans, hwrites⟩
  | activate key address sessionKey =>
    obtain ⟨hans, hwrites⟩ := set_congr hs ht hd h (Device.activated key address sessionKey)
      DeviceField.activation
    exact ⟨congrArg DeviceAnswer.done hans, hwrites⟩
  | delete key =>
    obtain ⟨hans, hwrites⟩ := delete_congr hs ht hd h key
    exact ⟨congrArg DeviceAnswer.done hans, hwrites⟩

end RecordStore

namespace ApplicationRecords

theorem wrote_set (s : σ) (a : Application) :
    Wrote applicationKeys [.putFields (recordKey a.app) (toFields a)] s
      (set ⟨s⟩ a).state.backend where
  keys _ hw := List.mem_singleton.mp hw ▸ recordKey_mem a.app
  kept hs ht := (TidyBackend.putFields hs ht (recordKey a.app) (toFields_ne_empty a)).2

theorem wrote_delete (s : σ) (app : AppEui) :
    Wrote applicationKeys [.remove (recordKey app)] s (delete ⟨s⟩ app).state.backend where
  keys _ hw := List.mem_singleton.mp hw ▸ recordKey_mem app
  kept {c} hs ht := by
    obtain ⟨hans, hstate⟩ := TidyBackend.remove hs ht (recordKey app)
    simp only [delete, hans]
    cases !(c.record (recordKey app)).isEmpty || !(c.members (recordKey app)).isEmpty <;> exact hstate

theorem run_congr (hs : Holds s c) (hts : Tidy s) (ht : Holds t d) (htt : Tidy t)
    (h : Agree applicationKeys c d) (call : ApplicationCall) :
    (call.run (⟨s⟩ : ApplicationRecords σ)).1 = (call.run (⟨t⟩ : ApplicationRecords σ)).1 ∧
    ∃ writes, Wrote applicationKeys writes s (call.run (⟨s⟩ : ApplicationRecords σ)).2.backend ∧
      Wrote applicationKeys writes t (call.run (⟨t⟩ : ApplicationRecords σ)).2.backend := by
  cases call with
  | get app =>
    refine ⟨congrArg ApplicationAnswer.application ?_, [], .nil, .nil⟩
    simp only [ApplicationStore.get, get, LawfulBackend.fields hs, LawfulBackend.fields ht,
      (h _ (recordKey_mem app)).1]
  | set a =>
    refine ⟨congrArg ApplicationAnswer.done ?_, _, wrote_set s a, wrote_set t a⟩
    obtain ⟨hs, -⟩ := TidyBackend.putFields hs hts (recordKey a.app) (toFields_ne_empty a)
    obtain ⟨ht, -⟩ := TidyBackend.putFields ht htt (recordKey a.app) (toFields_ne_empty a)
    exact congrArg (Except.mapError StoreError.backend) (hs.trans ht.symm)
  | delete app =>
    refine ⟨congrArg ApplicationAnswer.done ?_, _, wrote_delete s app, wrote_delete t app⟩
    obtain ⟨hrecord, hmembers⟩ := h _ (recordKey_mem app)
    obtain ⟨hs, -⟩ := TidyBackend.remove hs hts (recordKey app)
    obtain ⟨ht, -⟩ := TidyBackend.remove ht htt (recordKey app)
    rw [hrecord, hmembers, ← ht] at hs
    simp only [ApplicationStore.delete, delete, hs]
    cases (Backend.remove t (recordKey app)).answer with
    | error e => rfl
    | ok there => cases there <;> rfl

end ApplicationRecords

end Calls

inductive SharedCall
  | device (c : DeviceCall)
  | application (c : ApplicationCall)

inductive SharedAnswer
  | device (a : DeviceAnswer)
  | application (a : ApplicationAnswer)

def SharedCall.device? : SharedCall → Option DeviceCall
  | .device c => some c
  | .application _ => none

def SharedCall.application? : SharedCall → Option ApplicationCall
  | .device _ => none
  | .application c => some c

def SharedAnswer.device? : SharedAnswer → Option DeviceAnswer
  | .device a => some a
  | .application _ => none

def SharedAnswer.application? : SharedAnswer → Option ApplicationAnswer
  | .device _ => none
  | .application a => some a

namespace SharedCall
open LawfulBackend (Holds)
open TidyBackend (Tidy)
open Contents (Agree)

variable {σ : Type} [Backend σ]

def run (s : σ) : SharedCall → SharedAnswer × σ
  | .device c =>
    let (a, r) := c.run (⟨s⟩ : RecordStore σ)
    (.device a, r.backend)
  | .application c =>
    let (a, r) := c.run (⟨s⟩ : ApplicationRecords σ)
    (.application a, r.backend)

def runAll (s : σ) (cs : List SharedCall) : List SharedAnswer × σ := Runs.run run s cs

def entry (s : σ) (k : String) : Except BackendError FieldMap × Except BackendError (List String) :=
  (Backend.fields s k, Backend.members s k)

/-- What comes of calls of both stores on one backend: each store is answered as on a backend of its
own, and after them neither reaches what the other keeps. -/
structure Apart (s : σ) (cs : List SharedCall) : Prop where
  devices : (runAll s cs).1.filterMap SharedAnswer.device? =
    (runCalls (⟨s⟩ : RecordStore σ) (cs.filterMap device?)).1
  applications : (runAll s cs).1.filterMap SharedAnswer.application? =
    (ApplicationCall.runAll (⟨s⟩ : ApplicationRecords σ) (cs.filterMap application?)).1
  entry_device : ∀ (c : DeviceCall) (app : AppEui),
    entry (run (runAll s cs).2 (.device c)).2 (recordKey app) =
      entry (runAll s cs).2 (recordKey app)
  entry_application : ∀ c : ApplicationCall, ∀ k ∈ deviceKeys,
    entry (run (runAll s cs).2 (.application c)).2 k = entry (runAll s cs).2 k
  members_record : ∀ (w : Write) (key : DeviceKey), w.key = deviceKey key → ∀ stored,
    Backend.members (Backend.apply (runAll s cs).2 [w]).state (addressKey stored) =
      Backend.members (runAll s cs).2 (addressKey stored)

variable [TidyBackend σ]

theorem entry_of_holds {s : σ} {c : Contents} (hs : Holds s c) (k : String) :
    entry s k = (.ok (c.record k), .ok (c.members k).toList) := by
  rw [entry, LawfulBackend.fields hs, LawfulBackend.members hs]

theorem entry_congr {K : Set String} {s t : σ} {c d : Contents} (hs : Holds s c) (ht : Holds t d)
    (h : Agree K c d) {k : String} (hk : k ∈ K) : entry s k = entry t k := by
  rw [entry_of_holds hs, entry_of_holds ht, (h k hk).1, (h k hk).2]

structure Shares (s own other : σ) (c d e : Contents) : Prop where
  shared : Holds s c ∧ Tidy s
  devices : Holds own d ∧ Tidy own
  applications : Holds other e ∧ Tidy other
  sound : d.Sound
  agreeDevices : Agree deviceKeys c d
  agreeApplications : Agree applicationKeys c e

variable {s own other : σ} {c d e : Contents}

theorem Shares.device (h : Shares s own other c d e) (call : DeviceCall) :
    (call.run (⟨s⟩ : RecordStore σ)).1 = (call.run (⟨own⟩ : RecordStore σ)).1 ∧
    ∃ c' d', Shares (call.run (⟨s⟩ : RecordStore σ)).2.backend
      (call.run (⟨own⟩ : RecordStore σ)).2.backend other c' d' e ∧ Agree applicationKeys c' c := by
  obtain ⟨hans, writes, hshared, hown, hsound⟩ :=
    RecordStore.run_congr h.shared.1 h.devices.1 h.sound h.agreeDevices call
  have hapart : ∀ w ∈ writes, w.key ∉ applicationKeys := fun w hw =>
    deviceKeys_disjoint _ (hshared.keys w hw)
  refine ⟨hans, _, _, ⟨hshared.kept h.shared.1 h.shared.2, hown.kept h.devices.1 h.devices.2,
    h.applications, hsound, h.agreeDevices.foldl_write writes,
    h.agreeApplications.of_apart hapart⟩, (Agree.refl _ c).of_apart hapart⟩

theorem Shares.application (h : Shares s own other c d e) (call : ApplicationCall) :
    (call.run (⟨s⟩ : ApplicationRecords σ)).1 = (call.run (⟨other⟩ : ApplicationRecords σ)).1 ∧
    ∃ c' e', Shares (call.run (⟨s⟩ : ApplicationRecords σ)).2.backend own
      (call.run (⟨other⟩ : ApplicationRecords σ)).2.backend c' d e' ∧ Agree deviceKeys c' c := by
  obtain ⟨hans, writes, hshared, hother⟩ := ApplicationRecords.run_congr h.shared.1 h.shared.2
    h.applications.1 h.applications.2 h.agreeApplications call
  have hapart : ∀ w ∈ writes, w.key ∉ deviceKeys := fun w hw hkey =>
    deviceKeys_disjoint _ hkey (hshared.keys w hw)
  refine ⟨hans, _, _, ⟨hshared.kept h.shared.1 h.shared.2, h.devices,
    hother.kept h.applications.1 h.applications.2, h.sound, h.agreeDevices.of_apart hapart,
    h.agreeApplications.foldl_write writes⟩, (Agree.refl _ c).of_apart hapart⟩

theorem Shares.runAll (h : Shares s own other c d e) (cs : List SharedCall) :
    (runAll s cs).1.filterMap SharedAnswer.device? =
        (runCalls (⟨own⟩ : RecordStore σ) (cs.filterMap device?)).1 ∧
      (runAll s cs).1.filterMap SharedAnswer.application? =
        (ApplicationCall.runAll (⟨other⟩ : ApplicationRecords σ) (cs.filterMap application?)).1 ∧
      ∃ own' other' c' d' e', Shares (SharedCall.runAll s cs).2 own' other' c' d' e' := by
  induction cs generalizing s own other c d e with
  | nil => exact ⟨rfl, rfl, own, other, c, d, e, h⟩
  | cons call cs ih =>
    cases call with
    | device call =>
      obtain ⟨hans, c', d', hnext, -⟩ := h.device call
      obtain ⟨hdevices, happlications, hlast⟩ := ih hnext
      refine ⟨?_, happlications, hlast⟩
      exact congrArg₂ List.cons hans hdevices
    | application call =>
      obtain ⟨hans, c', e', hnext, -⟩ := h.application call
      obtain ⟨hdevices, happlications, hlast⟩ := ih hnext
      refine ⟨hdevices, ?_, hlast⟩
      exact congrArg₂ List.cons hans happlications

theorem apart_of_empty (hs : Holds s .empty) (ht : Tidy s) (cs : List SharedCall) :
    Apart s cs := by
  have hstart : Shares s s s .empty .empty .empty :=
    ⟨⟨hs, ht⟩, ⟨hs, ht⟩, ⟨hs, ht⟩, Contents.sound_empty, .refl _ _, .refl _ _⟩
  obtain ⟨hdevices, happlications, own, other, c, d, e, hlast⟩ := hstart.runAll cs
  refine ⟨hdevices, happlications, fun call app => ?_, fun call k hk => ?_,
    fun w key hkey stored => ?_⟩
  · obtain ⟨-, c', d', hnext, hagree⟩ := hlast.device call
    exact entry_congr hnext.shared.1 hlast.shared.1 hagree (recordKey_mem app)
  · obtain ⟨-, c', e', hnext, hagree⟩ := hlast.application call
    exact entry_congr hnext.shared.1 hlast.shared.1 hagree hk
  · obtain ⟨-, hstate⟩ := LawfulBackend.apply hlast.shared.1 [w]
    have hne : addressKey stored ≠ w.key := by
      rw [hkey]
      exact (RecordStore.deviceKey_ne_addressKey key stored).symm
    rw [LawfulBackend.members hstate, LawfulBackend.members hlast.shared.1, List.foldl_cons,
      List.foldl_nil, (c.write_of_ne hne).2]

end SharedCall

/-- Two stores over one backend, in memory or in a database, do not see each other, since no two of
their keys are the same. -/
theorem stores_share_a_backend (cs : List SharedCall) :
    SharedCall.Apart MemoryBackend.empty cs ∧ SharedCall.Apart Database.empty cs ∧
    deviceKey.Injective ∧ (fun a : DevAddr => addressKey a.text).Injective ∧ recordKey.Injective ∧
    (∀ key stored, deviceKey key ≠ addressKey stored) ∧
    (∀ key app, deviceKey key ≠ recordKey app) ∧
    ∀ stored app, addressKey stored ≠ recordKey app := by
  exact ⟨SharedCall.apart_of_empty MemoryBackend.contents_empty MemoryBackend.tidy_empty cs,
    SharedCall.apart_of_empty Database.holds_empty trivial cs, RecordStore.deviceKey_injective,
    RecordStore.addressKey_injective.comp Identifier.text_injective,
    ApplicationRecords.recordKey_injective, RecordStore.deviceKey_ne_addressKey,
    deviceKey_ne_recordKey, addressKey_ne_recordKey⟩

end LorawanRouting
