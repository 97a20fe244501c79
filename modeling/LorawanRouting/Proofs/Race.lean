import LorawanRouting.Router.Basic
import Mathlib.Data.List.Basic

/-!
The outcome of a race, told without the loop. The first accepted answer is the one before which
every answer carries a downlink that could not be delivered, and which needs no delivery or is
delivered; what was handed to the sender are the downlinks up to it.
-/

namespace LorawanRouting.Race

variable {ρ σ : Type} {deliver : σ → Downlink → Bool × σ} {downlinkOf : ρ → Option Downlink} {s : σ}

def downlinks (downlinkOf : ρ → Option Downlink) (answers : List (Arrival ρ)) : List Downlink :=
  answers.filterMap fun a => downlinkOf a.answer

/-- What a sender tells when it is handed some downlinks in turn, and its state after them. -/
def handOver (deliver : σ → Downlink → Bool × σ) (s : σ) : List Downlink → List Bool × σ
  | [] => ([], s)
  | m :: ms =>
    let (delivered, s) := deliver s m
    let (rest, s) := handOver deliver s ms
    (delivered :: rest, s)

structure AllFail (deliver : σ → Downlink → Bool × σ) (downlinkOf : ρ → Option Downlink) (s : σ)
    (answers : List (Arrival ρ)) : Prop where
  carry : ∀ a ∈ answers, (downlinkOf a.answer).isSome
  failed : ∀ delivered ∈ (handOver deliver s (downlinks downlinkOf answers)).1, delivered = false

/-- The answer that is accepted, with those that came before and after it. -/
structure FirstAccepted (deliver : σ → Downlink → Bool × σ) (downlinkOf : ρ → Option Downlink)
    (s : σ) (answers before : List (Arrival ρ)) (a : Arrival ρ) (after : List (Arrival ρ)) :
    Prop where
  split : answers = before ++ a :: after
  failed : AllFail deliver downlinkOf s before
  accepted : ∀ m ∈ downlinkOf a.answer,
    (deliver (handOver deliver s (downlinks downlinkOf before)).2 m).1 = true

/-- A sender that notes what it is handed. -/
def recording (deliver : σ → Downlink → Bool × σ) (state : σ × List Downlink) (m : Downlink) :
    Bool × σ × List Downlink :=
  let (delivered, s) := deliver state.1 m
  (delivered, s, state.2 ++ [m])

theorem downlinks_cons {a : Arrival ρ} {m : Downlink} (h : downlinkOf a.answer = some m)
    (answers : List (Arrival ρ)) :
    downlinks downlinkOf (a :: answers) = m :: downlinks downlinkOf answers :=
  List.filterMap_cons_some h

theorem allFail_nil : AllFail deliver downlinkOf s [] := by
  constructor
  · simp
  · simp [downlinks, handOver]

theorem allFail_cons {a : Arrival ρ} {answers : List (Arrival ρ)} :
    AllFail deliver downlinkOf s (a :: answers) ↔ ∃ m, downlinkOf a.answer = some m ∧
      (deliver s m).1 = false ∧ AllFail deliver downlinkOf (deliver s m).2 answers := by
  constructor
  · intro h
    obtain ⟨hcarry, hfailed⟩ := h
    obtain ⟨m, hm⟩ := Option.isSome_iff_exists.mp (hcarry a (by simp))
    rw [downlinks_cons hm, handOver] at hfailed
    refine ⟨m, hm, hfailed _ (by simp), fun b hb => hcarry b (by simp [hb]), fun d hd => ?_⟩
    exact hfailed d (by simp [hd])
  · intro h
    obtain ⟨m, hm, hfail, hrest⟩ := h
    constructor
    · intro b hb
      rcases List.mem_cons.mp hb with rfl | hb
      · rw [hm]
        rfl
      · exact hrest.carry b hb
    · intro d hd
      rw [downlinks_cons hm, handOver] at hd
      rcases List.mem_cons.mp hd with rfl | hd
      · exact hfail
      · exact hrest.failed d hd

theorem AllFail.length_downlinks {answers : List (Arrival ρ)}
    (h : AllFail deliver downlinkOf s answers) :
    (downlinks downlinkOf answers).length = answers.length := by
  induction answers generalizing s with
  | nil => rfl
  | cons a answers ih =>
    obtain ⟨m, hm, -, hrest⟩ := allFail_cons.mp h
    rw [downlinks_cons hm, List.length_cons, ih hrest, List.length_cons]

theorem allFail_or_firstAccepted (deliver : σ → Downlink → Bool × σ)
    (downlinkOf : ρ → Option Downlink) (s : σ) (answers : List (Arrival ρ)) :
    AllFail deliver downlinkOf s answers ∨
      ∃ before a after, FirstAccepted deliver downlinkOf s answers before a after := by
  induction answers generalizing s with
  | nil => exact Or.inl allFail_nil
  | cons a answers ih =>
    by_cases haccepted : ∀ m ∈ downlinkOf a.answer, (deliver s m).1 = true
    · exact Or.inr ⟨[], a, answers, rfl, allFail_nil, haccepted⟩
    · obtain ⟨m, hrefused⟩ := not_forall.mp haccepted
      obtain ⟨hm, hfail⟩ := Classical.not_imp.mp hrefused
      have hfail := Bool.eq_false_iff.mpr hfail
      rcases ih (deliver s m).2 with hrest | ⟨before, b, after, hsplit, hbefore, hb⟩
      · exact Or.inl (allFail_cons.mpr ⟨m, hm, hfail, hrest⟩)
      · refine Or.inr ⟨a :: before, b, after, ?_, allFail_cons.mpr ⟨m, hm, hfail, hbefore⟩, ?_⟩
        · rw [hsplit, List.cons_append]
        · rw [downlinks_cons hm]
          exact hb

def turn (deliver : σ → Downlink → Bool × σ) (downlinkOf : ρ → Option Downlink)
    (state : σ × Tally) (a : Arrival ρ) : σ × Tally :=
  Tally.take deliver state a.id (downlinkOf a.answer)

theorem collect_eq_foldl (answers : List (Arrival ρ)) :
    collect deliver downlinkOf s answers =
      answers.foldl (turn deliver downlinkOf) (s, .start) := rfl

theorem foldl_turn_of_won (answers : List (Arrival ρ)) (id : String) (responses deliveries : Nat) :
    answers.foldl (turn deliver downlinkOf) (s, ⟨some id, responses, deliveries⟩) =
      (s, ⟨some id, responses + answers.length, deliveries⟩) := by
  induction answers generalizing responses with
  | nil => rfl
  | cons a answers ih =>
    have hturn : turn deliver downlinkOf (s, ⟨some id, responses, deliveries⟩) a =
        (s, ⟨some id, responses + 1, deliveries⟩) := rfl
    rw [List.foldl_cons, hturn, ih, List.length_cons, Nat.add_assoc, Nat.add_comm 1]

theorem foldl_turn_of_allFail {answers : List (Arrival ρ)}
    (h : AllFail deliver downlinkOf s answers) (responses deliveries : Nat) :
    answers.foldl (turn deliver downlinkOf) (s, ⟨none, responses, deliveries⟩) =
      ((handOver deliver s (downlinks downlinkOf answers)).2,
        ⟨none, responses + answers.length, deliveries + answers.length⟩) := by
  induction answers generalizing s responses deliveries with
  | nil => rfl
  | cons a answers ih =>
    obtain ⟨m, hm, hfail, hrest⟩ := allFail_cons.mp h
    have hturn : turn deliver downlinkOf (s, ⟨none, responses, deliveries⟩) a =
        ((deliver s m).2, ⟨none, responses + 1, deliveries + 1⟩) := by
      obtain ⟨s', hs⟩ : ∃ s', deliver s m = (false, s') := ⟨_, Prod.ext hfail rfl⟩
      simp [turn, Tally.take, hm, hs]
    rw [List.foldl_cons, hturn, ih hrest, downlinks_cons hm, handOver, List.length_cons, Nat.add_assoc,
      Nat.add_assoc, Nat.add_comm 1]

theorem collect_of_allFail {answers : List (Arrival ρ)}
    (h : AllFail deliver downlinkOf s answers) :
    collect deliver downlinkOf s answers =
      ((handOver deliver s (downlinks downlinkOf answers)).2,
        ⟨none, answers.length, (downlinks downlinkOf answers).length⟩) := by
  have hfold := foldl_turn_of_allFail h 0 0
  rw [Nat.zero_add, ← h.length_downlinks] at hfold
  rw [collect_eq_foldl, ← h.length_downlinks]
  exact hfold

theorem handOver_append (ms ns : List Downlink) :
    handOver deliver s (ms ++ ns) =
      ((handOver deliver s ms).1 ++ (handOver deliver (handOver deliver s ms).2 ns).1,
        (handOver deliver (handOver deliver s ms).2 ns).2) := by
  induction ms generalizing s with
  | nil => rfl
  | cons m ms ih => simp only [List.cons_append, handOver, ih]

theorem collect_of_firstAccepted {answers before after : List (Arrival ρ)} {a : Arrival ρ}
    (h : FirstAccepted deliver downlinkOf s answers before a after) :
    collect deliver downlinkOf s answers =
      ((handOver deliver s (downlinks downlinkOf (before ++ [a]))).2,
        ⟨some a.id, answers.length, (downlinks downlinkOf (before ++ [a])).length⟩) := by
  have hbefore := foldl_turn_of_allFail h.failed 0 0
  have hcount := h.failed.length_downlinks
  have hlast : downlinks downlinkOf (before ++ [a]) =
      downlinks downlinkOf before ++ (downlinkOf a.answer).toList := by
    rw [downlinks, List.filterMap_append]
    cases hm : downlinkOf a.answer <;> simp [downlinks, hm]
  have hturn : turn deliver downlinkOf
      ((handOver deliver s (downlinks downlinkOf before)).2, ⟨none, before.length, before.length⟩) a =
        ((handOver deliver s (downlinks downlinkOf (before ++ [a]))).2,
          ⟨some a.id, before.length + 1, (downlinks downlinkOf (before ++ [a])).length⟩) := by
    rw [hlast, handOver_append, List.length_append, hcount]
    cases hm : downlinkOf a.answer with
    | none => simp [turn, Tally.take, hm, handOver]
    | some m =>
      have haccepted := h.accepted m hm
      generalize (handOver deliver s (downlinks downlinkOf before)).2 = s' at haccepted ⊢
      obtain ⟨s'', hs⟩ : ∃ s'', deliver s' m = (true, s'') := ⟨_, Prod.ext haccepted rfl⟩
      simp [turn, Tally.take, hm, handOver, hs]
  have hlength : before.length + 1 + after.length = (before ++ a :: after).length := by
    rw [List.length_append, List.length_cons]
    omega
  rw [Nat.zero_add] at hbefore
  rw [collect_eq_foldl, h.split, List.foldl_append, Tally.start, hbefore, List.foldl_cons, hturn,
    foldl_turn_of_won, hlength]

theorem handOver_recording (noted ms : List Downlink) :
    handOver (recording deliver) (s, noted) ms =
      ((handOver deliver s ms).1, (handOver deliver s ms).2, noted ++ ms) := by
  induction ms generalizing s noted with
  | nil => simp [handOver]
  | cons m ms ih => simp [handOver, recording, ih]

theorem AllFail.recording {answers : List (Arrival ρ)}
    (h : AllFail deliver downlinkOf s answers) (noted : List Downlink) :
    AllFail (recording deliver) downlinkOf (s, noted) answers := by
  refine ⟨h.carry, ?_⟩
  rw [handOver_recording]
  exact h.failed

theorem FirstAccepted.recording {answers before after : List (Arrival ρ)} {a : Arrival ρ}
    (h : FirstAccepted deliver downlinkOf s answers before a after) (noted : List Downlink) :
    FirstAccepted (recording deliver) downlinkOf (s, noted) answers before a after := by
  refine ⟨h.split, h.failed.recording noted, ?_⟩
  rw [handOver_recording]
  exact h.accepted

theorem recorded_of_allFail {answers : List (Arrival ρ)}
    (h : AllFail deliver downlinkOf s answers) :
    collect (recording deliver) downlinkOf (s, []) answers =
      (((handOver deliver s (downlinks downlinkOf answers)).2, downlinks downlinkOf answers),
        ⟨none, answers.length, (downlinks downlinkOf answers).length⟩) := by
  rw [collect_of_allFail (h.recording []), handOver_recording, List.nil_append]

theorem recorded_of_firstAccepted {answers before after : List (Arrival ρ)} {a : Arrival ρ}
    (h : FirstAccepted deliver downlinkOf s answers before a after) :
    collect (recording deliver) downlinkOf (s, []) answers =
      (((handOver deliver s (downlinks downlinkOf (before ++ [a]))).2,
          downlinks downlinkOf (before ++ [a])),
        ⟨some a.id, answers.length, (downlinks downlinkOf (before ++ [a])).length⟩) := by
  rw [collect_of_firstAccepted (h.recording []), handOver_recording, List.nil_append]

theorem collect_eq_recorded (deliver : σ → Downlink → Bool × σ)
    (downlinkOf : ρ → Option Downlink) (s : σ) (answers : List (Arrival ρ)) :
    collect deliver downlinkOf s answers =
      ((collect (recording deliver) downlinkOf (s, []) answers).1.1,
        (collect (recording deliver) downlinkOf (s, []) answers).2) := by
  rcases allFail_or_firstAccepted deliver downlinkOf s answers with h | ⟨before, a, after, h⟩
  · rw [recorded_of_allFail h, collect_of_allFail h]
  · rw [recorded_of_firstAccepted h, collect_of_firstAccepted h]

theorem arrivals_perm (deadline : Nat) (peers : List (Peer ρ)) :
    (arrivals deadline peers).Perm (peers.filterMap (·.arrival? deadline)) :=
  List.mergeSort_perm _ _

theorem arrival?_eq_some {deadline : Nat} {p : Peer ρ} {a : Arrival ρ} :
    p.arrival? deadline = some a ↔
      p.conduct = .answers a.time a.answer ∧ a.time ≤ deadline ∧ p.id = a.id := by
  obtain ⟨id, time, answer⟩ := a
  rw [Peer.arrival?]
  cases p.conduct with
  | answers delay given =>
    by_cases hdelay : delay ≤ deadline
    · simp only [hdelay, if_true, Option.some.injEq, Arrival.mk.injEq, Conduct.answers.injEq]
      grind
    · simp only [hdelay, if_false, reduceCtorEq, Conduct.answers.injEq, false_iff]
      grind
  | refuses | crashes | silent => simp

theorem id_of_arrival? {deadline : Nat} {p : Peer ρ} {a : Arrival ρ}
    (h : p.arrival? deadline = some a) : p.id = a.id :=
  (arrival?_eq_some.mp h).2.2

theorem arrivals_filter (deadline : Nat) (peers : List (Peer ρ)) :
    arrivals deadline (peers.filter fun p => (p.arrival? deadline).isSome) =
      arrivals deadline peers := by
  have hnone : ∀ p : Peer ρ, (if (p.arrival? deadline).isSome then p.arrival? deadline else none) =
      p.arrival? deadline := by
    intro p
    cases p.arrival? deadline <;> rfl
  rw [arrivals, List.filterMap_filter]
  simp only [hnone, arrivals]

/-- The outcome of a race, whatever the order in which the answers arrive. -/
theorem outcome_of_first_accepted (kind : RequestKind) (deadline : Nat) (peers : List (Peer ρ))
    (answers : List (Arrival ρ))
    (harrived : answers.Perm (peers.filterMap (·.arrival? deadline)))
    (deliver : σ → Downlink → Bool × σ) (downlinkOf : ρ → Option Downlink) (s : σ) :
    let r := collect (recording deliver) downlinkOf (s, []) answers
    let won := FirstAccepted deliver downlinkOf s answers
    collect deliver downlinkOf s answers = (r.1.1, r.2) ∧
    (∀ before a after, won before a after →
      r.2.result kind =
          .ok ⟨a.id, answers.length, (downlinks downlinkOf (before ++ [a])).length⟩ ∧
        r.1.2 = downlinks downlinkOf (before ++ [a]) ∧
        ∃ p ∈ peers, p.id = a.id ∧ p.arrival? deadline = some a) ∧
    ((∃ o, r.2.result kind = .ok o) ↔ ∃ before a after, won before a after) ∧
    ((¬ ∃ before a after, won before a after) →
      r.2.result kind = .error (.notAccepted kind) ∧
        r.1.2 = downlinks downlinkOf answers ∧ r.1.2.length = answers.length) ∧
    (peers = [] → r.1 = (s, [])) ∧
    (arrivals deadline peers).Perm (peers.filterMap (·.arrival? deadline)) ∧
    arrivals deadline (peers.filter fun p => (p.arrival? deadline).isSome) =
      arrivals deadline peers := by
  intro r won
  have hcases := allFail_or_firstAccepted deliver downlinkOf s answers
  have hlost : AllFail deliver downlinkOf s answers → r = _ := recorded_of_allFail
  have hwon : ∀ {before a after}, won before a after → r = _ := recorded_of_firstAccepted
  refine ⟨collect_eq_recorded deliver downlinkOf s answers, fun before a after h => ?_, ⟨?_, ?_⟩,
    fun hnone => ?_, ?_, arrivals_perm deadline peers, arrivals_filter deadline peers⟩
  · rw [hwon h]
    refine ⟨rfl, rfl, ?_⟩
    have harrival : a ∈ answers := by simp [h.split]
    obtain ⟨p, hp, ha⟩ := List.mem_filterMap.mp (harrived.mem_iff.mp harrival)
    exact ⟨p, hp, id_of_arrival? ha, ha⟩
  · intro hok
    obtain ⟨o, ho⟩ := hok
    rcases hcases with h | h
    · rw [hlost h] at ho
      cases ho
    · exact h
  · intro hwinner
    obtain ⟨before, a, after, h⟩ := hwinner
    rw [hwon h]
    exact ⟨_, rfl⟩
  · rcases hcases with h | h
    · rw [hlost h]
      exact ⟨rfl, rfl, h.length_downlinks⟩
    · exact absurd h hnone
  · rintro rfl
    have hnil : answers = [] := harrived.eq_nil
    simp only [r, hnil]
    rfl

theorem outcome_of_second_answer :
    let peers : List (Peer (Option Downlink)) :=
      [⟨"a", .answers 1 none⟩, ⟨"b", .answers 2 (some ⟨[], none⟩)⟩, ⟨"c", .refuses 1⟩, ⟨"d", .silent⟩]
    let answers : List (Arrival (Option Downlink)) :=
      [⟨"b", 2, some ⟨[], none⟩⟩, ⟨"a", 1, none⟩]
    let deliver : Nat → Downlink → Bool × Nat := fun n _ => (0 < n, n + 1)
    answers.Perm (peers.filterMap (·.arrival? 5)) ∧
      (collect (recording deliver) id (0, []) answers).2.result .uplink = .ok ⟨"a", 2, 1⟩ := by
  intro peers answers deliver
  have harrived : answers.Perm (peers.filterMap (·.arrival? 5)) := List.Perm.swap _ _ _
  have hwon : FirstAccepted deliver id 0 answers [⟨"b", 2, some ⟨[], none⟩⟩] ⟨"a", 1, none⟩ [] := by
    refine ⟨rfl, allFail_cons.mpr ⟨_, rfl, rfl, allFail_nil⟩, ?_⟩
    intro m hm
    cases hm
  obtain ⟨-, haccepted, -⟩ :=
    outcome_of_first_accepted .uplink 5 peers answers harrived deliver id 0
  exact ⟨harrived, (haccepted _ _ _ hwon).1⟩

end LorawanRouting.Race
