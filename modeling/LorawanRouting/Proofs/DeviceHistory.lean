import LorawanRouting.Proofs.DeviceFields
import LorawanRouting.Proofs.MemoryStore
import Mathlib.Data.List.Induction

/-!
What the memory store answers, told from the history of calls alone. A field of a device has the
value of the latest write that named it since the device was last deleted.
-/

namespace LorawanRouting
open OrderedMaps (Ascending)

/-- Calls with the answers they got, the earliest first. -/
abbrev History := List (DeviceCall × DeviceAnswer)

namespace History

variable {σ : Type} [DeviceStore σ]

def of (s : σ) (cs : List DeviceCall) : History := cs.zip (runCalls s cs).1

def deleted (key : DeviceKey) : DeviceCall × DeviceAnswer → Bool
  | (.delete k, .done (.ok ())) => k = key
  | _ => false

/-- What was written under a key since it was last deleted, the latest first. -/
def written (h : History) (key : DeviceKey) : List (Device × List DeviceField) :=
  ((h.reverse.takeWhile fun e => !deleted key e).filterMap fun e => e.1.write?).filter
    fun w => w.1.key = key

def latest? (ws : List (Device × List DeviceField)) (f : DeviceField) : Option Device :=
  (ws.find? fun w => w.2.contains f).map Prod.fst

theorem of_concat (s : σ) (cs : List DeviceCall) (c : DeviceCall) :
    of s (cs ++ [c]) = of s cs ++ [(c, (c.run (runCalls s cs).2).1)] := by
  rw [of, runCalls_append, List.zip_append (length_runCalls s cs).symm]
  rfl

theorem written_concat (h : History) (e : DeviceCall × DeviceAnswer) (key : DeviceKey) :
    written (h ++ [e]) key =
      if deleted key e then []
      else (e.1.write?.toList.filter fun w => w.1.key = key) ++ written h key := by
  rw [written, List.reverse_append, List.reverse_singleton, List.singleton_append,
    List.takeWhile_cons]
  cases deleted key e with
  | true => rfl
  | false =>
    cases hw : e.1.write? with
    | none => simp [hw, written]
    | some w =>
      by_cases hkey : w.1.key = key
      · simp [hw, hkey, written]
      · simp [hw, hkey, written]

theorem latest?_cons (w : Device × List DeviceField) (ws : List (Device × List DeviceField))
    (f : DeviceField) : latest? (w :: ws) f = if f ∈ w.2 then some w.1 else latest? ws f := by
  by_cases hf : f ∈ w.2
  · simp [latest?, hf]
  · simp [latest?, hf]

end History

namespace DeviceTable
open History

structure Follows (t : DeviceTable) (h : History) : Prop where
  absent : ∀ key, t.devices[key]? = none ↔ written h key = []
  latest : ∀ key f, (t.device key).SameAt ((latest? (written h key) f).getD (.new key)) f

variable {t : DeviceTable} {h : History}

theorem follows_empty : empty.Follows [] where
  absent key := by simp [empty, written]
  latest key f := Device.SameAt.refl _ f

theorem Follows.pass (hf : t.Follows h) {e : DeviceCall × DeviceAnswer}
    (hwrite : e.1.write? = none) (hdel : ∀ key, deleted key e = false) : t.Follows (h ++ [e]) := by
  have hsame : ∀ key, written (h ++ [e]) key = written h key := by
    intro key
    simp [written_concat, hwrite, hdel]
  constructor
  · intro key
    rw [hsame]
    exact hf.absent key
  · intro key f
    rw [hsame]
    exact hf.latest key f

theorem Follows.write (hf : t.Follows h) {e : DeviceCall × DeviceAnswer} {d : Device}
    {fields : List DeviceField} (hwrite : e.1.write? = some (d, DeviceField.orAll fields))
    (hdel : ∀ key, deleted key e = false) : (t.set d fields).Follows (h ++ [e]) := by
  have hwritten : ∀ key, written (h ++ [e]) key =
      if d.key = key then (d, DeviceField.orAll fields) :: written h key else written h key := by
    intro key
    by_cases hkey : d.key = key
    · simp [written_concat, hwrite, hdel, hkey]
    · simp [written_concat, hwrite, hdel, hkey]
  constructor
  · intro key
    rw [hwritten, getElem?_set]
    by_cases hkey : d.key = key
    · simp [hkey]
    · simpa [hkey] using hf.absent key
  · intro key f
    rw [hwritten]
    by_cases hkey : d.key = key
    · subst hkey
      rw [if_pos rfl, device_set_self, latest?_cons]
      have hcopied := Device.sameAt_copyFields (t.device d.key) d (DeviceField.orAll fields) f
      by_cases hnamed : f ∈ DeviceField.orAll fields
      · simpa [hnamed] using hcopied
      · rw [if_neg hnamed] at hcopied
        simpa [hnamed] using hcopied.trans (hf.latest d.key f)
    · rw [if_neg hkey, device_set_of_ne hkey]
      exact hf.latest key f

theorem Follows.erase (hf : t.Follows h) (key : DeviceKey) :
    (⟨t.devices.erase key⟩ : DeviceTable).Follows (h ++ [(.delete key, .done (.ok ()))]) := by
  have hwritten : ∀ k, written (h ++ [(.delete key, .done (.ok ()))]) k =
      if key = k then [] else written h k := by
    intro k
    by_cases hk : key = k
    · simp [written_concat, deleted, hk]
    · simp [written_concat, deleted, hk, DeviceCall.write?]
  constructor
  · intro k
    rw [hwritten, Std.ExtTreeMap.getElem?_erase]
    by_cases hk : key = k
    · simp [hk]
    · simpa [hk] using hf.absent k
  · intro k f
    rw [hwritten, device, Std.ExtTreeMap.getElem?_erase]
    by_cases hk : key = k
    · simpa [hk, latest?] using Device.SameAt.refl (.new k) f
    · simpa [hk, device] using hf.latest k f

theorem Follows.step (hf : t.Follows h) (c : DeviceCall) :
    (c.run t).2.Follows (h ++ [(c, (c.run t).1)]) := by
  cases c with
  | get key => exact hf.pass rfl fun _ => rfl
  | byAddress address => exact hf.pass rfl fun _ => rfl
  | set d fields => exact hf.write rfl fun _ => rfl
  | activate key address sessionKey => exact hf.write rfl fun _ => rfl
  | delete key =>
    simp only [DeviceCall.run, DeviceStore.delete]
    cases t.devices[key]? with
    | none => exact hf.pass rfl fun _ => rfl
    | some d => exact hf.erase key

theorem follows_runCalls (cs : List DeviceCall) :
    (runCalls empty cs).2.Follows (History.of empty cs) := by
  induction cs using List.reverseRecOn with
  | nil => exact follows_empty
  | append_singleton cs c ih =>
    rw [History.of_concat, runCalls_append]
    exact ih.step c

end DeviceTable

/-- What the memory store answers and how its buckets look after any calls. -/
theorem MemoryStore.answers_follow_history (cs : List DeviceCall) :
    let s := (runCalls MemoryStore.empty cs).2
    let written := (History.of MemoryStore.empty cs).written
    (∀ key, DeviceStore.get s key = .error .notFound ↔ written key = []) ∧
    (∀ key, written key ≠ [] → ∃ d, DeviceStore.get s key = .ok d ∧ d.key = key ∧
      ∀ f, d.SameAt ((History.latest? (written key) f).getD (.new key)) f) ∧
    (∀ address, ∃ ds, DeviceStore.byAddress s address = .ok ds ∧ Ascending Device.key ds ∧
      ∀ d, d ∈ ds ↔ DeviceStore.get s d.key = .ok d ∧ d.address = address ∧ ¬ address.isZero) ∧
    ∀ address key, key ∈ s.bucket address ↔
      ¬ address.isZero ∧ ∃ d, DeviceStore.get s key = .ok d ∧ d.address = address := by
  intro s written
  have hcs : ∀ c ∈ cs, ∀ w ∈ c.write?, True := fun _ _ _ _ => trivial
  obtain ⟨hans, htable, hindex, hkey⟩ :=
    (MemoryStore.simulation fun _ _ => True).runCalls hcs MemoryStore.shows_empty
  have hfollows : s.table.Follows (History.of MemoryStore.empty cs) := by
    rw [htable, History.of, hans]
    exact DeviceTable.follows_runCalls cs
  rw [← htable] at hkey
  have hget : ∀ key d, DeviceStore.get s key = .ok d ↔ s.devices[key]? = some d := by
    intro key d
    simp only [DeviceStore.get]
    cases s.devices[key]? <;> simp
  refine ⟨fun key => ?_, fun key hkeys => ?_, fun address => ?_, fun address key => ?_⟩
  · rw [← hfollows.absent key]
    simp only [DeviceStore.get, MemoryStore.table]
    cases s.devices[key]? <;> simp
  · have hlatest := hfollows.latest key
    cases hd : s.devices[key]? with
    | none => exact absurd ((hfollows.absent key).mp hd) hkeys
    | some d =>
      have hdevice : s.table.device key = d := by simp [DeviceTable.device, MemoryStore.table, hd]
      rw [hdevice] at hlatest
      exact ⟨d, (hget key d).mpr hd, hkey hd, hlatest⟩
  · refine ⟨_, rfl, MemoryStore.ascending_byAddress hkey address, fun d => ?_⟩
    rw [hget]
    exact hindex.mem_byAddress hkey
  · simp only [hget]
    exact @hindex address key

end LorawanRouting
