import LorawanRouting.Proofs.MemoryStore
import LorawanRouting.Proofs.RecordStore

/-!
The stores of devices are interchangeable: the same calls get the same answers from the memory store
and from records over either backend, since each of them answers like the table of its devices.
-/

namespace LorawanRouting

/-- The call writes no time that would not read back. -/
def DeviceCall.Storable : DeviceCall → Prop
  | .set d fields =>
    DeviceField.lastSeen ∈ DeviceField.orAll fields → ∀ t ∈ d.lastSeen, Rfc3339.HasPlainYear t
  | _ => True

theorem DeviceCall.Storable.write {c : DeviceCall} (h : c.Storable) :
    ∀ w ∈ c.write?, ∀ f ∈ w.2, w.1.Storable f := by
  intro w hw f hf hseen
  subst hseen
  cases c with
  | set d fields =>
    obtain rfl := Option.some.inj hw
    exact h hf
  | activate key address sessionKey =>
    obtain rfl := Option.some.inj hw
    simp at hf
  | get | byAddress | delete => cases hw

theorem MemoryStore.error?_run (s : MemoryStore) (c : DeviceCall) :
    (c.run s).1.error? = none ∨ (c.run s).1.error? = some .notFound := by
  cases c with
  | get key =>
    simp only [DeviceCall.run, DeviceStore.get]
    cases s.devices[key]? with
    | none => exact Or.inr rfl
    | some d => exact Or.inl rfl
  | byAddress address => exact Or.inl rfl
  | set d fields => exact Or.inl rfl
  | activate key address sessionKey => exact Or.inl rfl
  | delete key =>
    simp only [DeviceCall.run, DeviceStore.delete, MemoryStore.delete]
    cases s.devices[key]? with
    | none => exact Or.inr rfl
    | some d => exact Or.inl rfl

theorem MemoryStore.error?_runCalls (s : MemoryStore) (cs : List DeviceCall) :
    ∀ a ∈ (runCalls s cs).1, a.error? = none ∨ a.error? = some .notFound := by
  induction cs generalizing s with
  | nil => simp [runCalls]
  | cons c cs ih =>
    intro a ha
    rcases List.mem_cons.mp ha with rfl | ha
    · exact MemoryStore.error?_run s c
    · exact ih _ a ha

/-- All stores of devices give the same answers to the same calls. -/
theorem stores_answer_alike (cs : List DeviceCall) (hcs : ∀ c ∈ cs, c.Storable) :
    (runCalls (⟨MemoryBackend.empty⟩ : RecordStore MemoryBackend) cs).1 =
        (runCalls MemoryStore.empty cs).1 ∧
      (runCalls (⟨Database.empty⟩ : RecordStore Database) cs).1 =
        (runCalls MemoryStore.empty cs).1 ∧
      ∀ a ∈ (runCalls MemoryStore.empty cs).1, a.error? = none ∨ a.error? = some .notFound := by
  have hwrites : ∀ c ∈ cs, ∀ w ∈ c.write?, ∀ f ∈ w.2, w.1.Storable f := fun c hc =>
    (hcs c hc).write
  have htable := (MemoryStore.simulation fun d fields => ∀ f ∈ fields, d.Storable f).runCalls
    hwrites MemoryStore.shows_empty
  have hmemory : RecordStore.Shows (⟨MemoryBackend.empty⟩ : RecordStore MemoryBackend) .empty :=
    ⟨.empty, MemoryBackend.contents_empty, Contents.represents_empty⟩
  have hdatabase : RecordStore.Shows (⟨Database.empty⟩ : RecordStore Database) .empty :=
    ⟨.empty, ⟨∅, ∅, rfl, Database.rows_empty⟩, Contents.represents_empty⟩
  refine ⟨?_, ?_, MemoryStore.error?_runCalls MemoryStore.empty cs⟩
  · rw [(RecordStore.simulation.runCalls hwrites hmemory).1, htable.1]
  · rw [(RecordStore.simulation.runCalls hwrites hdatabase).1, htable.1]

theorem stores_answer_alike_seen :
    let seen : Device := { Device.blank with lastSeen := some ⟨59, 1500000000, by decide, by decide⟩ }
    let cs : List DeviceCall := [.set seen [], .get seen.key, .delete seen.key, .get seen.key]
    (∀ c ∈ cs, c.Storable) ∧
      (runCalls (⟨Database.empty⟩ : RecordStore Database) cs).1 =
        (runCalls MemoryStore.empty cs).1 := by
  intro seen cs
  have hcs : ∀ c ∈ cs, c.Storable := by
    intro c hc
    simp only [cs, List.mem_cons, List.not_mem_nil, or_false] at hc
    rcases hc with rfl | rfl | rfl | rfl
    · intro _ t ht
      obtain rfl := Option.some.inj ht
      decide
    · trivial
    · trivial
    · trivial
  exact ⟨hcs, (stores_answer_alike cs hcs).2.1⟩

end LorawanRouting
