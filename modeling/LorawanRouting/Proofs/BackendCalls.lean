import LorawanRouting.Proofs.Contents
import LorawanRouting.Proofs.Runs

/-!
Runs of calls on the two backends. Both answer from their contents, the texts and members under
every key. The one thing contents do not tell is whether memory holds a record without fields, and
that shows in one place: memory tells a removal that there was something.
-/

namespace LorawanRouting

inductive BackendCall
  | fields (key : String)
  | field (key name : String)
  | members (key : String)
  | putFields (key : String) (texts : FieldMap)
  | remove (key : String)
  | addMember (key member : String)
  | removeMember (key member : String)
  | apply (writes : List Write)

inductive BackendAnswer
  | fields (found : Except BackendError FieldMap)
  | field (found : Except BackendError (Option String))
  | members (listed : Except BackendError (List String))
  | done (result : Except BackendError Unit)
  | removed (there : Except BackendError Bool)

namespace BackendCall

variable {σ : Type} [Backend σ]

def run (s : σ) : BackendCall → BackendAnswer × σ
  | .fields key => (.fields (Backend.fields s key), s)
  | .field key name => (.field (Backend.field s key name), s)
  | .members key => (.members (Backend.members s key), s)
  | .putFields key texts =>
    let r := Backend.putFields s key texts
    (.done r.answer, r.state)
  | .remove key =>
    let r := Backend.remove s key
    (.removed r.answer, r.state)
  | .addMember key member =>
    let r := Backend.addMember s key member
    (.done r.answer, r.state)
  | .removeMember key member =>
    let r := Backend.removeMember s key member
    (.done r.answer, r.state)
  | .apply writes =>
    let r := Backend.apply s writes
    (.done r.answer, r.state)

def runAll (s : σ) (cs : List BackendCall) : List BackendAnswer × σ := Runs.run run s cs

def writes : BackendCall → List Write
  | .fields _ | .field .. | .members _ => []
  | .putFields key texts => [.putFields key texts]
  | .remove key => [.remove key]
  | .addMember key member => [.addMember key member]
  | .removeMember key member => [.removeMember key member]
  | .apply writes => writes

def answer (c : Contents) : BackendCall → BackendAnswer
  | .fields key => .fields (.ok (c.record key))
  | .field key name => .field (.ok (c.record key)[name]?)
  | .members key => .members (.ok (c.members key).toList)
  | .remove key => .removed (.ok (!(c.record key).isEmpty || !(c.members key).isEmpty))
  | .putFields .. | .addMember .. | .removeMember .. | .apply _ => .done (.ok ())

end BackendCall

namespace Database

variable {rows : Std.ExtTreeMap RowKey String} {members : Std.ExtTreeSet RowKey} {c : Contents}
  {db : Database}

theorem holds_rows (h : Rows rows members c) (key : String) :
    holds ⟨some rows, some members⟩ key =
      (!(c.record key).isEmpty || !(c.members key).isEmpty) := by
  have hrecord : rows.toList.any (·.1.key = key) = !(c.record key).isEmpty := by
    rw [Bool.eq_iff_iff, Bool.not_eq_true', ← Bool.not_eq_true, Std.ExtTreeMap.isEmpty_iff,
      Std.ExtTreeMap.eq_empty_iff_forall_not_mem, not_forall_not, List.any_eq_true]
    constructor
    · intro hrow
      obtain ⟨⟨⟨k, name⟩, v⟩, hmem, hkey⟩ := hrow
      obtain rfl := of_decide_eq_true hkey
      rw [Std.ExtTreeMap.mem_toList_iff_getElem?_eq_some, ← h.record] at hmem
      exact ⟨name, Std.ExtTreeMap.mem_iff_isSome_getElem?.mpr (by simp [hmem])⟩
    · intro hname
      obtain ⟨name, hmem⟩ := hname
      obtain ⟨v, hv⟩ := Option.isSome_iff_exists.mp (Std.ExtTreeMap.mem_iff_isSome_getElem?.mp hmem)
      rw [h.record] at hv
      exact ⟨_, Std.ExtTreeMap.mem_toList_iff_getElem?_eq_some.mpr hv, decide_eq_true rfl⟩
  have hmembers : members.toList.any (·.key = key) = !(c.members key).isEmpty := by
    rw [Bool.eq_iff_iff, Bool.not_eq_true', ← Bool.not_eq_true, Std.ExtTreeSet.isEmpty_iff,
      Std.ExtTreeSet.eq_empty_iff_forall_not_mem, not_forall_not, List.any_eq_true]
    constructor
    · intro hrow
      obtain ⟨⟨k, m⟩, hmem, hkey⟩ := hrow
      obtain rfl := of_decide_eq_true hkey
      exact ⟨m, (h.listed _ m).mpr (Std.ExtTreeSet.mem_toList.mp hmem)⟩
    · intro hm
      obtain ⟨m, hm⟩ := hm
      exact ⟨_, Std.ExtTreeSet.mem_toList.mpr ((h.listed key m).mp hm), decide_eq_true rfl⟩
  simp only [holds, Option.getD_some, hrecord, hmembers]

theorem commit_write (h : Shows db c) {α : Type} (a : α) (w : Write) :
    (db.commit a (db.write w)).answer = .ok a ∧
      Shows (db.commit a (db.write w)).state (c.write w) := by
  obtain ⟨db', hwrite, h'⟩ := h.write w
  rw [hwrite]
  exact ⟨rfl, h'⟩

theorem run_spec (h : Shows db c) (call : BackendCall) :
    (call.run db).1 = call.answer c ∧ Shows (call.run db).2 (call.writes.foldl Contents.write c) := by
  cases call with
  | fields key => exact ⟨congrArg BackendAnswer.fields (LawfulBackend.fields (σ := Database) h key), h⟩
  | field key name => exact ⟨congrArg BackendAnswer.field (LawfulBackend.field (σ := Database) h key name), h⟩
  | members key => exact ⟨congrArg BackendAnswer.members (LawfulBackend.members (σ := Database) h key), h⟩
  | putFields key texts =>
    obtain ⟨hans, hstate⟩ := commit_write h () (.putFields key texts)
    exact ⟨congrArg BackendAnswer.done hans, hstate⟩
  | remove key =>
    obtain ⟨hans, hstate⟩ := commit_write h (db.holds key) (.remove key)
    obtain ⟨rows, members, rfl, hrows⟩ := h
    refine ⟨(congrArg BackendAnswer.removed hans).trans ?_, hstate⟩
    rw [holds_rows hrows, BackendCall.answer]
  | addMember key member =>
    obtain ⟨hans, hstate⟩ := commit_write h () (.addMember key member)
    exact ⟨congrArg BackendAnswer.done hans, hstate⟩
  | removeMember key member =>
    obtain ⟨hans, hstate⟩ := commit_write h () (.removeMember key member)
    exact ⟨congrArg BackendAnswer.done hans, hstate⟩
  | apply writes =>
    obtain ⟨hans, hstate⟩ := LawfulBackend.apply (σ := Database) h writes
    exact ⟨congrArg BackendAnswer.done hans, hstate⟩

end Database

namespace Write

def removes (key : String) : Write → Bool
  | .remove k => k = key
  | _ => false

def putUnder? (key : String) : Write → Option FieldMap
  | .putFields k texts => if k = key then some texts else none
  | _ => none

/-- What was put under a key since it was last removed, the latest first. -/
def putSince (key : String) (ws : List Write) : List FieldMap :=
  (ws.reverse.takeWhile fun w => !w.removes key).filterMap (putUnder? key)

theorem putSince_concat (key : String) (ws : List Write) (w : Write) :
    putSince key (ws ++ [w]) =
      if w.removes key then [] else (w.putUnder? key).toList ++ putSince key ws := by
  rw [putSince, List.reverse_append, List.reverse_singleton, List.singleton_append,
    List.takeWhile_cons]
  cases w.removes key with
  | true => rfl
  | false => cases h : w.putUnder? key <;> simp [h, putSince]

end Write

theorem FieldMap.overlay_eq_empty_iff {base top : FieldMap} :
    base.overlay top = ∅ ↔ top = ∅ ∧ base = ∅ := by
  have hempty : ∀ m : FieldMap, m = ∅ ↔ ∀ name : String, m[name]? = none := by
    intro m
    constructor
    · intro h
      simp [h]
    · intro h
      exact Std.ExtTreeMap.ext_getElem? fun name => by simp [h]
  simp only [hempty, getElem?_overlay, Option.or_eq_none_iff, forall_and]

namespace MemoryBackend

theorem getElem?_records_write (kv : MemoryBackend) (w : Write) (key : String) :
    (kv.write w).records[key]? =
      if w.removes key then none
      else match w.putUnder? key with
        | some texts => some ((kv.fields key).overlay texts)
        | none => kv.records[key]? := by
  cases w with
  | putFields k texts =>
    by_cases hk : k = key
    · simp [write, putFields, Write.removes, Write.putUnder?, hk]
    · simp [write, putFields, Write.removes, Write.putUnder?, Std.ExtTreeMap.getElem?_insert, hk]
  | remove k =>
    by_cases hk : k = key
    · simp [write, remove, Write.removes, hk]
    · simp [write, remove, Write.removes, Write.putUnder?, Std.ExtTreeMap.getElem?_erase, hk]
  | addMember | removeMember => rfl

theorem getElem?_sets_write {kv : MemoryBackend} (h : ∀ key : String, kv.sets[key]? ≠ some ∅)
    (w : Write) (key : String) : (kv.write w).sets[key]? ≠ some ∅ := by
  cases w with
  | putFields k texts => exact h key
  | remove k =>
    simp only [write, remove, Std.ExtTreeMap.getElem?_erase]
    split
    · simp
    · exact h key
  | addMember k member =>
    simp only [write, addMember, Std.ExtTreeMap.getElem?_insert]
    split
    · simp
    · exact h key
  | removeMember k member =>
    simp only [write, removeMember]
    split
    -- the last member takes its set with it
    case isTrue =>
      rw [Std.ExtTreeMap.getElem?_erase]
      split
      · simp
      · exact h key
    case isFalse hleft =>
      rw [Std.ExtTreeMap.getElem?_insert]
      split
      · simpa using hleft
      · exact h key

structure Written (kv : MemoryBackend) (ws : List Write) : Prop where
  absent : ∀ key : String, kv.records[key]? = none ↔ Write.putSince key ws = []
  emptied : ∀ key, kv.fields key = ∅ ↔ ∀ texts ∈ Write.putSince key ws, texts = ∅
  nonempty : ∀ key : String, kv.sets[key]? ≠ some ∅

theorem written_empty : Written empty [] := by
  constructor <;> simp [empty, fields, Write.putSince]

variable {kv : MemoryBackend} {ws : List Write}

theorem Written.write (h : kv.Written ws) (w : Write) : (kv.write w).Written (ws ++ [w]) := by
  refine ⟨fun key => ?_, fun key => ?_, getElem?_sets_write h.nonempty w⟩
  · rw [getElem?_records_write, Write.putSince_concat]
    cases w.removes key with
    | true => simp
    | false => cases w.putUnder? key <;> simp [h.absent]
  · rw [fields, getElem?_records_write, Write.putSince_concat]
    cases w.removes key with
    | true => simp
    | false =>
      cases w.putUnder? key with
      | none => exact h.emptied key
      | some texts => simp [FieldMap.overlay_eq_empty_iff, h.emptied]

theorem Written.foldl_write (h : kv.Written ws) (vs : List Write) :
    (vs.foldl MemoryBackend.write kv).Written (ws ++ vs) := by
  induction vs generalizing kv ws with
  | nil => simpa using h
  | cons w vs ih => simpa using ih (h.write w)

def HoldsOnlyEmptyRecord (kv : MemoryBackend) (key : String) : Prop :=
  kv.records[key]? = some ∅ ∧ kv.sets[key]? = none

theorem Written.holdsOnlyEmptyRecord_iff (h : kv.Written ws) (key : String) :
    kv.HoldsOnlyEmptyRecord key ↔ kv.sets[key]? = none ∧ Write.putSince key ws ≠ [] ∧
      ∀ texts ∈ Write.putSince key ws, texts = ∅ := by
  rw [HoldsOnlyEmptyRecord, ← h.emptied, ne_eq, ← h.absent, and_comm, fields]
  cases kv.records[key]? <;> simp

theorem state_run (kv : MemoryBackend) (call : BackendCall) :
    (call.run kv).2 = call.writes.foldl write kv := by
  cases call <;> rfl

theorem HoldsOnlyEmptyRecord.contents_empty {key : String} (h : kv.HoldsOnlyEmptyRecord key) :
    kv.fields key = ∅ ∧ kv.members key = ∅ := by
  simp [fields, members, h.1, h.2]

theorem Written.contains_iff (h : kv.Written ws) (key : String) :
    (kv.records.contains key || kv.sets.contains key) = true ↔
      kv.HoldsOnlyEmptyRecord key ∨ kv.fields key ≠ ∅ ∨ kv.members key ≠ ∅ := by
  simp only [HoldsOnlyEmptyRecord, fields, members, Bool.or_eq_true,
    Std.ExtTreeMap.contains_eq_isSome_getElem?]
  cases hset : kv.sets[key]? with
  | none => cases kv.records[key]? <;> simp [em]
  | some members =>
    have hmembers : members ≠ ∅ := by
      intro hempty
      exact h.nonempty key (hempty ▸ hset)
    simp [hmembers]

theorem answer_run {call : BackendCall} (h : ∀ key, call ≠ .remove key) :
    (call.run kv).1 = call.answer kv.contents := by
  cases call with
  | remove key => exact absurd rfl (h key)
  | _ => rfl

theorem Written.answer_remove (h : kv.Written ws) (key : String) :
    ((BackendCall.remove key).run kv).1 = .removed (.ok true) ∧
        (BackendCall.remove key).answer kv.contents = .removed (.ok false) ∧
        kv.HoldsOnlyEmptyRecord key ∨
      ((BackendCall.remove key).run kv).1 = (BackendCall.remove key).answer kv.contents ∧
        ¬ kv.HoldsOnlyEmptyRecord key := by
  have hcontains := h.contains_iff key
  by_cases honly : kv.HoldsOnlyEmptyRecord key
  -- memory finds the record, but the contents have nothing to show
  · obtain ⟨hfields, hmembers⟩ := honly.contents_empty
    refine Or.inl ⟨?_, ?_, honly⟩
    · exact congrArg (BackendAnswer.removed ∘ Except.ok) (hcontains.mpr (Or.inl honly))
    · simp [BackendCall.answer, contents, hfields, hmembers]
  · refine Or.inr ⟨congrArg (BackendAnswer.removed ∘ Except.ok) ?_, honly⟩
    rw [Bool.eq_iff_iff, hcontains]
    simp [honly, contents, Bool.eq_false_iff]

end MemoryBackend

theorem BackendCall.run_agree {kv : MemoryBackend} {db : Database} {ws : List Write}
    (hkv : kv.Written ws) (hdb : db.Shows kv.contents) (call : BackendCall) :
    ((call.run kv).1 = (call.run db).1 ∨ ∃ key, call = .remove key ∧
        (call.run kv).1 = .removed (.ok true) ∧ (call.run db).1 = .removed (.ok false)) ∧
    ((call.run kv).1 ≠ (call.run db).1 ↔
      ∃ key, call = .remove key ∧ kv.HoldsOnlyEmptyRecord key) := by
  obtain ⟨hanswer, -⟩ := Database.run_spec hdb call
  rw [hanswer]
  by_cases hremove : ∃ key, call = .remove key
  · obtain ⟨key, rfl⟩ := hremove
    rcases hkv.answer_remove key with ⟨hmemory, hdatabase, honly⟩ | ⟨hsame, honly⟩
    · rw [hmemory, hdatabase]
      exact ⟨Or.inr ⟨key, rfl, rfl, rfl⟩, fun _ => ⟨key, rfl, honly⟩, fun _ => by simp⟩
    · refine ⟨Or.inl hsame, fun hne => absurd hsame hne, fun hkey => ?_⟩
      obtain ⟨k, hk, honly'⟩ := hkey
      obtain rfl := BackendCall.remove.inj hk
      exact absurd honly' honly
  · have hother : ∀ key, call ≠ .remove key := fun key h => hremove ⟨key, h⟩
    have hsame : (call.run kv).1 = call.answer kv.contents := MemoryBackend.answer_run hother
    refine ⟨Or.inl hsame, fun hne => absurd hsame hne, fun hkey => ?_⟩
    obtain ⟨key, hkey, -⟩ := hkey
    exact absurd hkey (hother key)

theorem BackendCall.runAll_agree (cs : List BackendCall) :
    (runAll MemoryBackend.empty cs).2.Written (cs.flatMap writes) ∧
      (runAll Database.empty cs).2.Shows (runAll MemoryBackend.empty cs).2.contents := by
  induction cs using List.reverseRecOn with
  | nil =>
    refine ⟨MemoryBackend.written_empty, ?_⟩
    have hempty : (runAll MemoryBackend.empty []).2.contents = .empty := MemoryBackend.contents_empty
    rw [hempty]
    exact ⟨∅, ∅, rfl, Database.rows_empty⟩
  | append_singleton cs c ih =>
    obtain ⟨hwritten, hshows⟩ := ih
    simp only [runAll, Runs.run_concat, List.flatMap_append, List.flatMap_singleton] at *
    rw [MemoryBackend.state_run]
    refine ⟨hwritten.foldl_write _, ?_⟩
    rw [MemoryBackend.contents_foldl_write]
    exact (Database.run_spec hshows c).2

/-- Where the two backends answer alike, and the one call on which they do not. -/
theorem backends_answer_alike (cs : List BackendCall) :
    let memory := BackendCall.runAll MemoryBackend.empty
    let database := BackendCall.runAll Database.empty
    (memory cs).1.length = cs.length ∧ (database cs).1.length = cs.length ∧
    (∀ i call, cs[i]? = some call → ∃ a b, (memory cs).1[i]? = some a ∧
      (database cs).1[i]? = some b ∧
      (a = b ∨ ∃ key, call = .remove key ∧ a = .removed (.ok true) ∧ b = .removed (.ok false)) ∧
      (a ≠ b ↔ ∃ key, call = .remove key ∧
        (memory (cs.take i)).2.HoldsOnlyEmptyRecord key)) ∧
    ∀ i key, (memory (cs.take i)).2.HoldsOnlyEmptyRecord key ↔
      (memory (cs.take i)).2.sets[key]? = none ∧
      Write.putSince key ((cs.take i).flatMap BackendCall.writes) ≠ [] ∧
      ∀ texts ∈ Write.putSince key ((cs.take i).flatMap BackendCall.writes), texts = ∅ := by
  intro memory database
  refine ⟨Runs.length_run cs, Runs.length_run cs, fun i call hcall => ?_, fun i key => ?_⟩
  · obtain ⟨hwritten, hshows⟩ := BackendCall.runAll_agree (cs.take i)
    obtain ⟨hsame, hdiffer⟩ := BackendCall.run_agree hwritten hshows call
    refine ⟨_, _, ?_, ?_, hsame, hdiffer⟩
    · simp only [memory, BackendCall.runAll, Runs.getElem?_run, hcall, Option.map_some]
    · simp only [database, BackendCall.runAll, Runs.getElem?_run, hcall, Option.map_some]
  · exact (BackendCall.runAll_agree (cs.take i)).1.holdsOnlyEmptyRecord_iff key

end LorawanRouting
