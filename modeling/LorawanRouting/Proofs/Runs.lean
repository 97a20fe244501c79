import Mathlib.Data.List.Induction

/-!
Runs of calls on a state. Each call is answered from the state that those before it left behind, so
what a call is answered in a run is told by the calls before it.
-/

namespace LorawanRouting.Runs

variable {σ ι α : Type} {step : σ → ι → α × σ} {s : σ}

def run (step : σ → ι → α × σ) (s : σ) : List ι → List α × σ
  | [] => ([], s)
  | c :: cs =>
    let (a, s) := step s c
    let (as, s) := run step s cs
    (a :: as, s)

def log (step : σ → ι → α × σ) (s : σ) (cs : List ι) : List (ι × α) :=
  (cs.zip (run step s cs).1).reverse

/-- The calls with the states that they found, the latest first. -/
def visits (step : σ → ι → α × σ) (s : σ) : List ι → List (σ × ι)
  | [] => []
  | c :: cs => visits step (step s c).2 cs ++ [(s, c)]

theorem length_run (cs : List ι) : (run step s cs).1.length = cs.length := by
  induction cs generalizing s with
  | nil => rfl
  | cons c cs ih => simp only [run, List.length_cons, ih]

theorem run_append (cs ds : List ι) :
    run step s (cs ++ ds) =
      ((run step s cs).1 ++ (run step (run step s cs).2 ds).1,
        (run step (run step s cs).2 ds).2) := by
  induction cs generalizing s with
  | nil => rfl
  | cons c cs ih => simp only [List.cons_append, run, ih]

theorem run_concat (cs : List ι) (c : ι) :
    run step s (cs ++ [c]) =
      ((run step s cs).1 ++ [(step (run step s cs).2 c).1], (step (run step s cs).2 c).2) :=
  run_append cs [c]

theorem getElem?_run (cs : List ι) (i : Nat) :
    (run step s cs).1[i]? = cs[i]?.map fun c => (step (run step s (cs.take i)).2 c).1 := by
  induction cs generalizing s i with
  | nil => rfl
  | cons c cs ih =>
    cases i with
    | zero => rfl
    | succ i => simpa only [run, List.getElem?_cons_succ, List.take_succ_cons] using ih i

theorem log_concat (cs : List ι) (c : ι) :
    log step s (cs ++ [c]) = (c, (step (run step s cs).2 c).1) :: log step s cs := by
  rw [log, run_concat, List.zip_append (length_run cs).symm, List.reverse_append]
  rfl

theorem visits_concat (cs : List ι) (c : ι) :
    visits step s (cs ++ [c]) = ((run step s cs).2, c) :: visits step s cs := by
  induction cs generalizing s with
  | nil => rfl
  | cons d cs ih => simp only [List.cons_append, visits, ih, run]

theorem map_snd_visits (cs : List ι) : (visits step s cs).map Prod.snd = cs.reverse := by
  induction cs generalizing s with
  | nil => rfl
  | cons c cs ih => rw [visits, List.map_append, ih, List.reverse_cons, List.map_singleton]

theorem keep (Inv : σ → Prop) (hstep : ∀ s c, Inv s → Inv (step s c).2) (hs : Inv s)
    (cs : List ι) : Inv (run step s cs).2 := by
  induction cs generalizing s with
  | nil => exact hs
  | cons c cs ih => exact ih (hstep s c hs)

/-- Calls that see and change one part of a state only, among calls that leave this part alone, are
answered as if the others were not there. -/
theorem log_filter {τ : Type} (view : σ → τ) (P : ι → Bool)
    (hinside : ∀ s s' c, P c = true → view s = view s' →
      (step s c).1 = (step s' c).1 ∧ view (step s c).2 = view (step s' c).2)
    (houtside : ∀ s c, P c = false → view (step s c).2 = view s) (cs : List ι) :
    (log step s cs).filter (fun e => P e.1) = log step s (cs.filter P) ∧
      view (run step s cs).2 = view (run step s (cs.filter P)).2 := by
  induction cs using List.reverseRecOn with
  | nil => exact ⟨rfl, rfl⟩
  | append_singleton cs c ih =>
    obtain ⟨hlog, hview⟩ := ih
    rw [log_concat, run_concat, List.filter_append]
    cases hc : P c with
    | true =>
      obtain ⟨hanswer, hnext⟩ := hinside _ _ c hc hview
      rw [List.filter_cons_of_pos (by exact hc), List.filter_cons_of_pos (by exact hc),
        List.filter_nil, log_concat, run_concat, hanswer, hlog]
      exact ⟨rfl, hnext⟩
    | false =>
      rw [List.filter_cons_of_neg (by simp [hc]), List.filter_cons_of_neg (by simp [hc]),
        List.filter_nil, List.append_nil]
      exact ⟨hlog, (houtside _ c hc).trans hview⟩

end LorawanRouting.Runs
