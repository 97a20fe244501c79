import LorawanRouting.Proofs.TidyBackends

/-!
Batches of writes. A batch comes to what its writes come to one by one, or else to nothing: it fails
exactly if some write in it needs a table that is missing, and then it leaves everything as it was.
-/

namespace LorawanRouting

def Write.call : Write → BackendCall
  | .putFields key texts => .putFields key texts
  | .remove key => .remove key
  | .addMember key member => .addMember key member
  | .removeMember key member => .removeMember key member

def Write.tables : Write → List Database.Table
  | .putFields .. => [.fields]
  | .remove _ => [.fields, .members]
  | .addMember .. | .removeMember .. => [.members]

def BackendAnswer.Succeeded : BackendAnswer → Prop
  | .fields found => ∃ m, found = .ok m
  | .field found => ∃ v, found = .ok v
  | .members listed => ∃ ks, listed = .ok ks
  | .done result => result = .ok ()
  | .removed there => ∃ b, there = .ok b

theorem Write.writes_call (w : Write) : w.call.writes = [w] := by
  cases w <;> rfl

namespace MemoryBackend

theorem runAll_calls (kv : MemoryBackend) (writes : List Write) :
    (BackendCall.runAll kv (writes.map Write.call)).2 = writes.foldl write kv := by
  induction writes generalizing kv with
  | nil => rfl
  | cons w writes ih =>
    have hstep : (w.call.run kv).2 = kv.write w := by rw [state_run, Write.writes_call]; rfl
    rw [List.foldl_cons, ← ih, ← hstep]
    rfl

end MemoryBackend

namespace Database

variable {db db' : Database} {w : Write} {writes : List Write}

def Has (db : Database) : Table → Prop
  | .fields => db.fieldRows.isSome
  | .members => db.memberRows.isSome

def CanMake (db : Database) (writes : List Write) : Prop :=
  ∀ w ∈ writes, ∀ t ∈ w.tables, db.Has t

theorem isSome_write_iff (hw : w.Filled) :
    (db.write w).isSome ↔ ∀ t ∈ w.tables, db.Has t := by
  obtain ⟨rows, members⟩ := db
  cases w with
  | putFields key m =>
    have hm : m.isEmpty = false := Std.ExtTreeMap.isEmpty_eq_false_iff.mpr hw
    cases rows <;> simp [write, upsert, hm, Write.tables, Has]
  | remove key => cases rows <;> cases members <;> simp [write, delete, Write.tables, Has]
  | addMember key member => cases members <;> simp [write, insertMember, Write.tables, Has]
  | removeMember key member => cases members <;> simp [write, deleteMember, Write.tables, Has]

theorem has_of_write (h : db.write w = some db') (t : Table) : db'.Has t ↔ db.Has t := by
  obtain ⟨rows, members⟩ := db
  cases w with
  | putFields key m =>
    simp only [write, upsert] at h
    split at h
    · obtain rfl := Option.some.inj h
      exact Iff.rfl
    · cases rows with
      | none => cases h
      | some rows =>
        obtain rfl := Option.some.inj h
        cases t <;> rfl
  | remove key =>
    cases rows with
    | none => cases h
    | some rows =>
      cases members with
      | none => cases h
      | some members =>
        obtain rfl := Option.some.inj h
        cases t <;> rfl
  | addMember key member | removeMember key member =>
    cases members with
    | none => cases h
    | some members =>
      obtain rfl := Option.some.inj h
      cases t <;> rfl

theorem isSome_foldlM_write_iff (hw : ∀ w ∈ writes, w.Filled) :
    (writes.foldlM write db).isSome ↔ db.CanMake writes := by
  induction writes generalizing db with
  | nil => simp [CanMake]
  | cons w writes ih =>
    obtain ⟨hfirst, hrest⟩ := List.forall_mem_cons.mp hw
    have hstep : (db.write w).isSome ↔ ∀ t ∈ w.tables, db.Has t := isSome_write_iff hfirst
    rw [List.foldlM_cons, CanMake, List.forall_mem_cons, ← hstep]
    cases hwrite : db.write w with
    | none => simp
    | some db' =>
      simp only [Option.bind_eq_bind, Option.bind_some, Option.isSome_some, true_and]
      rw [ih hrest, CanMake]
      simp only [has_of_write hwrite]

theorem run_call (h : db.write w = some db') :
    (w.call.run db).1.Succeeded ∧ (w.call.run db).2 = db' := by
  simp only [write] at h
  cases w with
  | remove key =>
    simp only [Write.call, BackendCall.run, Backend.remove, h, commit, and_true]
    exact ⟨_, rfl⟩
  | putFields | addMember | removeMember =>
    simp only [Write.call, BackendCall.run, Backend.putFields, Backend.addMember,
      Backend.removeMember, h, commit, and_true]
    rfl

theorem runAll_calls (h : writes.foldlM write db = some db') :
    (∀ a ∈ (BackendCall.runAll db (writes.map Write.call)).1, a.Succeeded) ∧
      (BackendCall.runAll db (writes.map Write.call)).2 = db' := by
  induction writes generalizing db with
  | nil =>
    obtain rfl := Option.some.inj h
    exact ⟨by simp [BackendCall.runAll, Runs.run], rfl⟩
  | cons w writes ih =>
    rw [List.foldlM_cons] at h
    obtain ⟨db₁, hwrite, hrest⟩ := Option.bind_eq_some_iff.mp h
    obtain ⟨hanswer, hstate⟩ := run_call hwrite
    obtain ⟨hanswers, hlast⟩ := ih hrest
    rw [← hstate] at hanswers hlast
    exact ⟨List.forall_mem_cons.mpr ⟨hanswer, hanswers⟩, hlast⟩

theorem apply_of_some (h : writes.foldlM write db = some db') :
    Backend.apply db writes = ⟨.ok (), db'⟩ := by
  simp only [Backend.apply, h, commit]

theorem apply_of_none (h : writes.foldlM write db = none) :
    Backend.apply db writes = ⟨.error .statementFailed, db⟩ := by
  simp only [Backend.apply, h, commit]

theorem foldlM_of_answer_apply (h : (Backend.apply db writes).answer = .ok ()) :
    writes.foldlM write db = some (Backend.apply db writes).state := by
  cases hfold : writes.foldlM write db with
  | none =>
    rw [apply_of_none hfold] at h
    cases h
  | some db' => rw [apply_of_some hfold]

theorem apply_append {first second : List Write}
    (hfirst : (Backend.apply db first).answer = .ok ())
    (hsecond : (Backend.apply (Backend.apply db first).state second).answer = .ok ()) :
    Backend.apply db (first ++ second) = Backend.apply (Backend.apply db first).state second := by
  have hboth : (first ++ second).foldlM write db =
      some (Backend.apply (Backend.apply db first).state second).state := by
    rw [List.foldlM_append, foldlM_of_answer_apply hfirst]
    exact foldlM_of_answer_apply hsecond
  rw [apply_of_some hboth, ← hsecond]

end Database

/-- A batch on memory, and on a database whatever is in it and whichever tables are missing. -/
theorem batch_is_its_writes_or_nothing (writes : List Write) (hw : ∀ w ∈ writes, w.Filled) :
    (∀ kv : MemoryBackend, Backend.apply kv writes =
      ⟨.ok (), (BackendCall.runAll kv (writes.map Write.call)).2⟩) ∧
    (∀ db : Database,
      ((Backend.apply db writes).answer = .ok () ↔ db.CanMake writes) ∧
      (db.CanMake writes →
        (∀ a ∈ (BackendCall.runAll db (writes.map Write.call)).1, a.Succeeded) ∧
        Backend.apply db writes = ⟨.ok (), (BackendCall.runAll db (writes.map Write.call)).2⟩) ∧
      (¬ db.CanMake writes → Backend.apply db writes = ⟨.error .statementFailed, db⟩)) ∧
    ∀ first second, writes = first ++ second →
      (∀ kv : MemoryBackend,
        Backend.apply kv writes = Backend.apply (Backend.apply kv first).state second) ∧
      ∀ db : Database, (Backend.apply db first).answer = .ok () →
        (Backend.apply (Backend.apply db first).state second).answer = .ok () →
        Backend.apply db writes = Backend.apply (Backend.apply db first).state second := by
  refine ⟨fun kv => ?_, fun db => ?_, ?_⟩
  · rw [MemoryBackend.runAll_calls]
    rfl
  · have hmade : (writes.foldlM Database.write db).isSome ↔ db.CanMake writes :=
      Database.isSome_foldlM_write_iff hw
    refine ⟨?_, fun hcan => ?_, fun hcannot => ?_⟩
    · rw [← hmade]
      constructor
      · intro hanswer
        rw [Database.foldlM_of_answer_apply hanswer]
        rfl
      · intro hsome
        obtain ⟨db', hfold⟩ := Option.isSome_iff_exists.mp hsome
        rw [Database.apply_of_some hfold]
    · obtain ⟨db', hfold⟩ := Option.isSome_iff_exists.mp (hmade.mpr hcan)
      obtain ⟨hanswers, hstate⟩ := Database.runAll_calls hfold
      rw [hstate]
      exact ⟨hanswers, Database.apply_of_some hfold⟩
    · refine Database.apply_of_none (Option.not_isSome_iff_eq_none.mp ?_)
      exact fun hsome => hcannot (hmade.mp hsome)
  · rintro first second rfl
    refine ⟨fun kv => ?_, fun db => Database.apply_append⟩
    simp only [Backend.apply, List.foldl_append]

theorem batch_is_nothing_without_members :
    let writes : List Write :=
      [.putFields "rec" ((∅ : FieldMap).insert "x" "1"), .addMember "idx" "rec"]
    let db := Database.empty.dropTable .members
    (∀ w ∈ writes, w.Filled) ∧ ¬ db.CanMake writes ∧
      Backend.apply db writes = ⟨.error .statementFailed, db⟩ ∧
      Backend.apply Database.empty writes =
        ⟨.ok (), (BackendCall.runAll Database.empty (writes.map Write.call)).2⟩ := by
  intro writes db
  have hw : ∀ w ∈ writes, w.Filled := by
    simp [writes, Write.Filled]
  have hcannot : ¬ db.CanMake writes := by
    intro h
    exact absurd (h (.addMember "idx" "rec") (by simp [writes]) .members (by simp [Write.tables]))
      (by simp [db, Database.Has, Database.dropTable])
  have hcan : Database.empty.CanMake writes := by
    intro w _ t _
    cases t <;> rfl
  obtain ⟨-, hdatabase, -⟩ := batch_is_its_writes_or_nothing writes hw
  exact ⟨hw, hcannot, (hdatabase db).2.2 hcannot, ((hdatabase .empty).2.1 hcan).2⟩

end LorawanRouting
