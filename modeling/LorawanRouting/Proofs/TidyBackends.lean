import LorawanRouting.Proofs.BackendCalls

/-!
Backends in which nothing is hidden. Contents do not tell a record without fields from none, so they
tell what a removal is answered only while no such record is kept; and none comes to be as long as
no call puts a record without fields.
-/

namespace LorawanRouting

def Write.Filled : Write → Prop
  | .putFields _ texts => texts ≠ ∅
  | _ => True

theorem Write.Filled.of_putUnder? {w : Write} (hw : w.Filled) {key : String} {texts : FieldMap}
    (h : w.putUnder? key = some texts) : texts ≠ ∅ := by
  cases w with
  | putFields k m =>
    rw [Write.putUnder?] at h
    split at h
    · exact Option.some.inj h ▸ hw
    · cases h
  | remove | addMember | removeMember => cases h

class TidyBackend (σ : Type) [Backend σ] extends LawfulBackend σ where
  Tidy : σ → Prop
  putFields : ∀ {s c}, Holds s c → Tidy s → ∀ (key : String) {texts : FieldMap}, texts ≠ ∅ →
    (Backend.putFields s key texts).answer = .ok () ∧
      Holds (Backend.putFields s key texts).state (c.write (.putFields key texts)) ∧
      Tidy (Backend.putFields s key texts).state
  remove : ∀ {s c}, Holds s c → Tidy s → ∀ key : String,
    (Backend.remove s key).answer = .ok (!(c.record key).isEmpty || !(c.members key).isEmpty) ∧
      Holds (Backend.remove s key).state (c.write (.remove key)) ∧
      Tidy (Backend.remove s key).state
  tidy_apply : ∀ {s}, Tidy s → ∀ {writes : List Write}, (∀ w ∈ writes, w.Filled) →
    Tidy (Backend.apply s writes).state

namespace MemoryBackend

def Tidy (kv : MemoryBackend) : Prop :=
  ∀ key : String, kv.records[key]? ≠ some ∅ ∧ kv.sets[key]? ≠ some ∅

theorem tidy_empty : empty.Tidy := by simp [Tidy, empty]

variable {kv : MemoryBackend}

theorem Tidy.write (ht : kv.Tidy) {w : Write} (hw : w.Filled) : (kv.write w).Tidy := by
  intro key
  refine ⟨?_, getElem?_sets_write (fun k => (ht k).2) w key⟩
  rw [getElem?_records_write]
  split
  · simp
  · cases hput : w.putUnder? key with
    | none => exact (ht key).1
    | some texts => simp [FieldMap.overlay_eq_empty_iff, hw.of_putUnder? hput]

theorem Tidy.foldl_write (ht : kv.Tidy) {writes : List Write} (hw : ∀ w ∈ writes, w.Filled) :
    (writes.foldl MemoryBackend.write kv).Tidy := by
  induction writes generalizing kv with
  | nil => exact ht
  | cons w writes ih =>
    exact ih (ht.write (hw w (by simp))) fun v hv => hw v (by simp [hv])

theorem Tidy.contains_eq (ht : kv.Tidy) (key : String) :
    (kv.records.contains key || kv.sets.contains key) =
      (!(kv.fields key).isEmpty || !(kv.members key).isEmpty) := by
  obtain ⟨hrecord, hset⟩ := ht key
  refine congrArg₂ _ ?_ ?_
  · simp only [fields, Std.ExtTreeMap.contains_eq_isSome_getElem?]
    cases hfound : kv.records[key]? with
    | none => simp
    | some m =>
      have hm : m ≠ ∅ := fun hempty => hrecord (hempty ▸ hfound)
      simp [Std.ExtTreeMap.isEmpty_eq_false_iff, hm]
  · simp only [members, Std.ExtTreeMap.contains_eq_isSome_getElem?]
    cases hfound : kv.sets[key]? with
    | none => simp
    | some members =>
      have hmembers : members ≠ ∅ := fun hempty => hset (hempty ▸ hfound)
      simp [Std.ExtTreeSet.isEmpty_eq_false_iff, hmembers]

instance : TidyBackend MemoryBackend where
  Tidy := Tidy
  putFields := by
    rintro kv _ rfl ht key texts htexts
    exact ⟨rfl, kv.contents_write (.putFields key texts), ht.write (w := .putFields key texts) htexts⟩
  remove := by
    rintro kv _ rfl ht key
    exact ⟨congrArg Except.ok (ht.contains_eq key), kv.contents_write (.remove key),
      ht.write (w := .remove key) trivial⟩
  tidy_apply := by
    intro kv ht writes hw
    exact ht.foldl_write hw

end MemoryBackend

instance : TidyBackend Database where
  Tidy _ := True
  putFields := by
    intro db c hs _ key texts _
    obtain ⟨hans, hstate⟩ := Database.commit_write hs () (.putFields key texts)
    exact ⟨hans, hstate, trivial⟩
  remove := by
    intro db c hs _ key
    obtain ⟨hans, hstate⟩ := Database.commit_write hs (db.holds key) (.remove key)
    refine ⟨?_, hstate, trivial⟩
    obtain ⟨rows, members, rfl, hrows⟩ := hs
    rw [← Database.holds_rows hrows]
    exact hans
  tidy_apply := fun _ _ _ => trivial

namespace Storage

def Tidy : Storage → Prop
  | .memory kv => kv.Tidy
  | .database _ => True

instance : TidyBackend Storage where
  Tidy := Tidy
  putFields := by
    intro s c hs ht key texts htexts
    cases s with
    | memory kv => exact TidyBackend.putFields (σ := MemoryBackend) hs ht key htexts
    | database db => exact TidyBackend.putFields (σ := Database) hs ht key htexts
  remove := by
    intro s c hs ht key
    cases s with
    | memory kv => exact TidyBackend.remove (σ := MemoryBackend) hs ht key
    | database db => exact TidyBackend.remove (σ := Database) hs ht key
  tidy_apply := by
    intro s ht writes hw
    cases s with
    | memory kv => exact TidyBackend.tidy_apply (σ := MemoryBackend) ht hw
    | database db => trivial

end Storage

end LorawanRouting
