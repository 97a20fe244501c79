import LorawanRouting.Device.Store
import LorawanRouting.Proofs.OrderedMaps

/-!
Runs of calls on a store of devices, and a store that is nothing but a table: it has no index and
finds the holders of an address by looking at every device. Other stores are compared with it.
-/

namespace LorawanRouting
open OrderedMaps (Ascending)

inductive DeviceCall
  | get (key : DeviceKey)
  | byAddress (address : DevAddr)
  | set (device : Device) (fields : List DeviceField)
  | activate (key : DeviceKey) (address : DevAddr) (sessionKey : NwkSKey)
  | delete (key : DeviceKey)

inductive DeviceAnswer
  | device (found : Except StoreError Device)
  | devices (held : Except StoreError (List Device))
  | done (result : Except StoreError Unit)

def DeviceCall.failed (e : StoreError) : DeviceCall → DeviceAnswer
  | .get _ => .device (.error e)
  | .byAddress _ => .devices (.error e)
  | .set .. | .activate .. | .delete _ => .done (.error e)

def DeviceAnswer.error? : DeviceAnswer → Option StoreError
  | .device (.error e) | .devices (.error e) | .done (.error e) => some e
  | _ => none

variable {σ τ : Type} [DeviceStore σ] [DeviceStore τ]

def DeviceCall.run (s : σ) : DeviceCall → DeviceAnswer × σ
  | .get key => (.device (DeviceStore.get s key), s)
  | .byAddress address => (.devices (DeviceStore.byAddress s address), s)
  | .set d fields =>
    let r := DeviceStore.set s d fields
    (.done r.answer, r.state)
  | .activate key address sessionKey =>
    let r := DeviceStore.activate s key address sessionKey
    (.done r.answer, r.state)
  | .delete key =>
    let r := DeviceStore.delete s key
    (.done r.answer, r.state)

def runCalls (s : σ) : List DeviceCall → List DeviceAnswer × σ
  | [] => ([], s)
  | c :: cs =>
    let (a, s) := c.run s
    let (as, s) := runCalls s cs
    (a :: as, s)

def DeviceCall.write? : DeviceCall → Option (Device × List DeviceField)
  | .set d fields => some (d, if fields = [] then DeviceField.all else fields)
  | .activate key address sessionKey =>
    some ({ Device.new key with address, sessionKey, counterUp := 0, counterDown := 0 },
      [.dev, .app, .address, .sessionKey, .counterUp, .counterDown])
  | _ => none

theorem length_runCalls (s : σ) (cs : List DeviceCall) : (runCalls s cs).1.length = cs.length := by
  induction cs generalizing s with
  | nil => rfl
  | cons c cs ih => simp only [runCalls, List.length_cons, ih]

theorem runCalls_append (s : σ) (cs ds : List DeviceCall) :
    runCalls s (cs ++ ds) =
      ((runCalls s cs).1 ++ (runCalls (runCalls s cs).2 ds).1, (runCalls (runCalls s cs).2 ds).2) := by
  induction cs generalizing s with
  | nil => rfl
  | cons c cs ih => simp only [List.cons_append, runCalls, ih]

/-- A relation between two stores that every call keeps while both give the same answer. -/
structure Simulation (P : Device → List DeviceField → Prop) (Sim : σ → τ → Prop) : Prop where
  get : ∀ {s t} key, Sim s t → DeviceStore.get s key = DeviceStore.get t key
  byAddress : ∀ {s t} address, Sim s t →
    DeviceStore.byAddress s address = DeviceStore.byAddress t address
  set : ∀ {s t} d fields, P d (DeviceField.orAll fields) → Sim s t →
    (DeviceStore.set s d fields).answer = (DeviceStore.set t d fields).answer ∧
      Sim (DeviceStore.set s d fields).state (DeviceStore.set t d fields).state
  delete : ∀ {s t} key, Sim s t →
    (DeviceStore.delete s key).answer = (DeviceStore.delete t key).answer ∧
      Sim (DeviceStore.delete s key).state (DeviceStore.delete t key).state

variable {P : Device → List DeviceField → Prop} {Sim : σ → τ → Prop}

theorem Simulation.run (h : Simulation P Sim) {s : σ} {t : τ} {c : DeviceCall}
    (hc : ∀ w ∈ c.write?, P w.1 w.2) (hst : Sim s t) :
    (c.run s).1 = (c.run t).1 ∧ Sim (c.run s).2 (c.run t).2 := by
  cases c with
  | get key => exact ⟨congrArg DeviceAnswer.device (h.get key hst), hst⟩
  | byAddress address => exact ⟨congrArg DeviceAnswer.devices (h.byAddress address hst), hst⟩
  | set d fields =>
    obtain ⟨hans, hstate⟩ := h.set d fields (hc (d, DeviceField.orAll fields) rfl) hst
    exact ⟨congrArg DeviceAnswer.done hans, hstate⟩
  | activate key address sessionKey =>
    obtain ⟨hans, hstate⟩ := h.set (Device.activated key address sessionKey) DeviceField.activation
      (hc (_, DeviceField.activation) rfl) hst
    exact ⟨congrArg DeviceAnswer.done hans, hstate⟩
  | delete key =>
    obtain ⟨hans, hstate⟩ := h.delete key hst
    exact ⟨congrArg DeviceAnswer.done hans, hstate⟩

theorem Simulation.runCalls (h : Simulation P Sim) {s : σ} {t : τ} {cs : List DeviceCall}
    (hcs : ∀ c ∈ cs, ∀ w ∈ c.write?, P w.1 w.2) (hst : Sim s t) :
    (runCalls s cs).1 = (runCalls t cs).1 ∧ Sim (runCalls s cs).2 (runCalls t cs).2 := by
  induction cs generalizing s t with
  | nil => exact ⟨rfl, hst⟩
  | cons c cs ih =>
    obtain ⟨hans, hstate⟩ := h.run (hcs c (by simp)) hst
    obtain ⟨hrest, hlast⟩ := ih (fun d hd => hcs d (by simp [hd])) hstate
    refine ⟨?_, hlast⟩
    simp only [LorawanRouting.runCalls]
    rw [hans, hrest]

structure DeviceTable where
  devices : Std.ExtTreeMap DeviceKey Device

namespace DeviceTable

def empty : DeviceTable := ⟨∅⟩

def device (t : DeviceTable) (key : DeviceKey) : Device := t.devices[key]?.getD (.new key)

/-- The devices that hold an address, in the order of their keys; none holds the zero address. -/
def holders (t : DeviceTable) (address : DevAddr) : List Device :=
  (t.devices.toList.map Prod.snd).filter fun d => d.address = address ∧ ¬ address.isZero

def set (t : DeviceTable) (d : Device) (fields : List DeviceField) : DeviceTable :=
  ⟨t.devices.insert d.key ((t.device d.key).copyFields d (DeviceField.orAll fields))⟩

instance : DeviceStore DeviceTable where
  get t key :=
    match t.devices[key]? with
    | some d => .ok d
    | none => .error .notFound
  byAddress t address := .ok (t.holders address)
  set t d fields := ⟨.ok (), t.set d fields⟩
  delete t key :=
    match t.devices[key]? with
    | some _ => ⟨.ok (), ⟨t.devices.erase key⟩⟩
    | none => ⟨.error .notFound, t⟩

def Keyed (t : DeviceTable) : Prop :=
  ∀ ⦃key : DeviceKey⦄ ⦃d : Device⦄, t.devices[key]? = some d → d.key = key

theorem key_copyFields {d e : Device} (h : d.key = e.key) (fs : List DeviceField) :
    (d.copyFields e fs).key = e.key := by
  induction fs generalizing d with
  | nil => exact h
  | cons f fs ih =>
    refine ih (d := d.copyField e f) ?_
    have happ : d.app = e.app := congrArg DeviceKey.app h
    have hdev : d.dev = e.dev := congrArg DeviceKey.dev h
    cases f <;> simp [Device.copyField, Device.key, happ, hdev]

theorem keyed_empty : empty.Keyed := by
  intro key d h
  simp [empty] at h

theorem Keyed.key_device {t : DeviceTable} (h : t.Keyed) (key : DeviceKey) :
    (t.device key).key = key := by
  rw [device]
  cases hd : t.devices[key]? with
  | none => rfl
  | some d => exact h hd

theorem getElem?_set (t : DeviceTable) (d : Device) (fields : List DeviceField) (key : DeviceKey) :
    (t.set d fields).devices[key]? =
      if d.key = key then some ((t.device key).copyFields d (DeviceField.orAll fields))
      else t.devices[key]? := by
  rw [set, Std.ExtTreeMap.getElem?_insert]
  by_cases hk : d.key = key
  · simp [hk]
  · simp [hk]

theorem device_set_self (t : DeviceTable) (d : Device) (fields : List DeviceField) :
    (t.set d fields).device d.key =
      (t.device d.key).copyFields d (DeviceField.orAll fields) := by
  rw [device, getElem?_set, if_pos rfl, Option.getD_some]

theorem device_set_of_ne {t : DeviceTable} {d : Device} {fields : List DeviceField}
    {key : DeviceKey} (h : d.key ≠ key) : (t.set d fields).device key = t.device key := by
  rw [device, getElem?_set, if_neg h, ← device]

theorem Keyed.set {t : DeviceTable} (h : t.Keyed) (d : Device) (fields : List DeviceField) :
    (t.set d fields).Keyed := by
  intro key e he
  rw [getElem?_set] at he
  split at he
  case isTrue hk =>
    obtain rfl := Option.some.inj he
    rw [← hk]
    exact key_copyFields (h.key_device d.key) _
  case isFalse => exact h he

theorem Keyed.erase {t : DeviceTable} (h : t.Keyed) (key : DeviceKey) :
    (⟨t.devices.erase key⟩ : DeviceTable).Keyed := by
  intro k e he
  rw [Std.ExtTreeMap.getElem?_erase] at he
  split at he
  · cases he
  · exact h he

theorem Keyed.mem_holders {t : DeviceTable} (h : t.Keyed) {address : DevAddr} {d : Device} :
    d ∈ t.holders address ↔
      t.devices[d.key]? = some d ∧ d.address = address ∧ ¬ address.isZero := by
  simp only [holders, List.mem_filter, List.mem_map, Prod.exists, exists_eq_right,
    Std.ExtTreeMap.mem_toList_iff_getElem?_eq_some, decide_eq_true_eq]
  refine and_congr_left fun _ => ⟨?_, fun hd => ⟨d.key, hd⟩⟩
  intro hmem
  obtain ⟨key, hd⟩ := hmem
  rwa [h hd]

theorem Keyed.ascending_holders {t : DeviceTable} (h : t.Keyed) (address : DevAddr) :
    Ascending Device.key (t.holders address) := by
  refine List.Pairwise.filter _ (List.pairwise_map.mpr ?_)
  refine (OrderedMaps.ascending_toList t.devices).imp_of_mem ?_
  rintro ⟨k, d⟩ ⟨l, e⟩ hd he hlt
  rw [Std.ExtTreeMap.mem_toList_iff_getElem?_eq_some] at hd he
  rw [h hd, h he]
  exact hlt

end DeviceTable

end LorawanRouting
