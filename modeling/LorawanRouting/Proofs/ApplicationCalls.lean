import LorawanRouting.Proofs.ApplicationStores

/-!
Runs of calls on the stores of applications. The table and the records over either backend give the
same answers, and the calls before tell what they are: an application is known from the time it is
set, until another is set in its place or it is deleted.
-/

namespace LorawanRouting

inductive ApplicationCall
  | get (app : AppEui)
  | set (a : Application)
  | delete (app : AppEui)

inductive ApplicationAnswer
  | application (found : Except StoreError Application)
  | done (result : Except StoreError Unit)

def ApplicationAnswer.error? : ApplicationAnswer → Option StoreError
  | .application (.error e) | .done (.error e) => some e
  | _ => none

namespace ApplicationCall

variable {σ : Type} [ApplicationStore σ]

def run (s : σ) : ApplicationCall → ApplicationAnswer × σ
  | .get app => (.application (ApplicationStore.get s app), s)
  | .set a =>
    let r := ApplicationStore.set s a
    (.done r.answer, r.state)
  | .delete app =>
    let r := ApplicationStore.delete s app
    (.done r.answer, r.state)

def runAll (s : σ) (cs : List ApplicationCall) : List ApplicationAnswer × σ := Runs.run run s cs

def answer (known : AppEui → Option Application) : ApplicationCall → ApplicationAnswer
  | .get app => .application <|
    match known app with
    | some a => .ok a
    | none => .error .notFound
  | .set _ => .done (.ok ())
  | .delete app => .done (if (known app).isSome then .ok () else .error .notFound)

theorem error?_answer (known : AppEui → Option Application) (c : ApplicationCall) :
    (c.answer known).error? = none ∨ (c.answer known).error? = some .notFound := by
  cases c with
  | get app =>
    rw [answer]
    cases known app with
    | none => exact Or.inr rfl
    | some a => exact Or.inl rfl
  | set a => exact Or.inl rfl
  | delete app =>
    rw [answer]
    cases (known app).isSome with
    | false => exact Or.inr rfl
    | true => exact Or.inl rfl

end ApplicationCall

namespace ApplicationRecords

variable {σ : Type} [Backend σ] [TidyBackend σ] {s : ApplicationRecords σ} {t : ApplicationTable}

theorem Shows.run (h : s.Shows t) (c : ApplicationCall) :
    (c.run s).1 = (c.run t).1 ∧ (c.run s).2.Shows (c.run t).2 := by
  cases c with
  | get app => exact ⟨congrArg ApplicationAnswer.application (h.get app), h⟩
  | set a =>
    obtain ⟨hans, hstate⟩ := h.set a
    exact ⟨congrArg ApplicationAnswer.done hans, hstate⟩
  | delete app =>
    obtain ⟨hans, hstate⟩ := h.delete app
    rw [← t.state_delete app] at hstate
    exact ⟨congrArg ApplicationAnswer.done hans, hstate⟩

theorem Shows.runAll (h : s.Shows t) (cs : List ApplicationCall) :
    (ApplicationCall.runAll s cs).1 = (ApplicationCall.runAll t cs).1 := by
  induction cs generalizing s t with
  | nil => rfl
  | cons c cs ih =>
    obtain ⟨hans, hstate⟩ := h.run c
    have hrest := ih hstate
    simp only [ApplicationCall.runAll, Runs.run] at hrest ⊢
    rw [hans, hrest]

end ApplicationRecords

namespace ApplicationTable

variable {t : ApplicationTable}

/-- The application set last under an identifier, if it was not deleted since; the latest call is
the first of the list. -/
def current? (app : AppEui) : List (ApplicationCall × ApplicationAnswer) → Option Application
  | [] => none
  | (.set a, .done (.ok ())) :: past => if a.app = app then some a else current? app past
  | (.delete other, .done (.ok ())) :: past => if other = app then none else current? app past
  | _ :: past => current? app past

def Follows (t : ApplicationTable) (past : List (ApplicationCall × ApplicationAnswer)) : Prop :=
  ∀ app : AppEui, t.rows[app]? = current? app past

theorem run_eq_answer (t : ApplicationTable) (c : ApplicationCall) :
    (c.run t).1 = c.answer fun app => t.rows[app]? := by
  cases c with
  | get app => rfl
  | set a => rfl
  | delete app =>
    simp only [ApplicationCall.run, ApplicationStore.delete, delete, ApplicationCall.answer,
      ← Std.ExtTreeMap.contains_eq_isSome_getElem?]
    cases t.rows.contains app <;> rfl

theorem Follows.run {past : List (ApplicationCall × ApplicationAnswer)} (h : t.Follows past)
    (c : ApplicationCall) : (c.run t).2.Follows ((c, (c.run t).1) :: past) := by
  intro app
  cases c with
  | get other => exact h app
  | set a =>
    simp only [ApplicationCall.run, ApplicationStore.set, current?, Std.ExtTreeMap.getElem?_insert,
      Std.compare_eq_iff_eq, h app]
  | delete other =>
    simp only [ApplicationCall.run, ApplicationStore.delete, delete]
    cases hthere : t.rows.contains other with
    | false => exact h app
    | true =>
      simp only [if_true, current?, Std.ExtTreeMap.getElem?_erase, Std.compare_eq_iff_eq, h app]

theorem follows_runAll (cs : List ApplicationCall) :
    (ApplicationCall.runAll empty cs).2.Follows (Runs.log ApplicationCall.run empty cs) := by
  induction cs using List.reverseRecOn with
  | nil =>
    intro app
    simp [ApplicationCall.runAll, Runs.run, Runs.log, empty, current?]
  | append_singleton cs c ih =>
    rw [Runs.log_concat, ApplicationCall.runAll, Runs.run_concat]
    exact ih.run c

end ApplicationTable

/-- What every store of applications answers to every call of a run. -/
theorem application_stores_answer_alike (cs : List ApplicationCall) :
    let table := ApplicationCall.runAll ApplicationTable.empty
    let memory := ApplicationCall.runAll (⟨.empty⟩ : ApplicationRecords MemoryBackend)
    let database := ApplicationCall.runAll (⟨.empty⟩ : ApplicationRecords Database)
    (memory cs).1 = (table cs).1 ∧ (database cs).1 = (table cs).1 ∧
    (∀ (i : Nat) (call : ApplicationCall), cs[i]? = some call →
      (table cs).1[i]? = some (call.answer fun app => ApplicationTable.current? app
        (Runs.log ApplicationCall.run ApplicationTable.empty (cs.take i)))) ∧
    ∀ a ∈ (table cs).1, a.error? = none ∨ a.error? = some .notFound := by
  intro table memory database
  have hmemory : (⟨.empty⟩ : ApplicationRecords MemoryBackend).Shows .empty :=
    ⟨.empty, MemoryBackend.contents_empty, MemoryBackend.tidy_empty,
      ApplicationRecords.represents_empty⟩
  have hdatabase : (⟨.empty⟩ : ApplicationRecords Database).Shows .empty :=
    ⟨.empty, Database.holds_empty, trivial, ApplicationRecords.represents_empty⟩
  have hanswer : ∀ i : Nat, (table cs).1[i]? = cs[i]?.map fun call : ApplicationCall =>
      call.answer fun app => ApplicationTable.current? app
        (Runs.log ApplicationCall.run ApplicationTable.empty (cs.take i)) := by
    intro i
    have hfollows := ApplicationTable.follows_runAll (cs.take i)
    rw [← funext hfollows]
    simp only [table, ApplicationCall.runAll, Runs.getElem?_run, ApplicationTable.run_eq_answer]
  refine ⟨hmemory.runAll cs, hdatabase.runAll cs, fun i call hcall => ?_, fun a ha => ?_⟩
  · rw [hanswer, hcall, Option.map_some]
  · obtain ⟨i, hi⟩ := List.mem_iff_getElem?.mp ha
    rw [hanswer, Option.map_eq_some_iff] at hi
    obtain ⟨call, -, rfl⟩ := hi
    exact ApplicationCall.error?_answer _ call

end LorawanRouting
