import LorawanRouting.Proofs.Race
import Mathlib.Algebra.GroupWithZero.Nat
import Mathlib.Data.List.Perm.Subperm
import Mathlib.Logic.Relation

/-!
A race as it is scheduled. One task for each peer puts at most one answer into a queue that has room
for as many answers as there are peers; a loop takes the answers out again and waits for every
delivery. The queue closes when nobody holds a sending end of it any more. Tasks and loop take their
steps in any order. A task that has an answer always finds room, the loop never stops before the last
answer, and what a race comes to is told by the order in which the answers were put into the queue.
-/

namespace LorawanRouting.Race

inductive Ending
  | answered
  | refused
  | late
  | crashed
  deriving DecidableEq, Repr

/-- What a task is at; one that has finished still holds its sending end until it is gone. -/
inductive Stage (ρ : Type)
  | asking
  | holding (time : Nat) (answer : ρ)
  | finished (how : Ending)
  | gone (how : Ending)

structure Task (ρ : Type) where
  id : String
  stage : Stage ρ

/-- The loop starts by giving up the sending end that the tasks had theirs from. -/
inductive Phase
  | starting
  | receiving
  | delivering (id : String) (m : Downlink)
  | closed
  deriving DecidableEq, Repr

/-- The last three fields only record what happened. -/
structure Fanout (ρ σ : Type) where
  tasks : List (Task ρ)
  capacity : Nat
  sendingEnds : Nat
  queue : List (Arrival ρ)
  phase : Phase
  tally : Tally
  sink : σ
  enqueued : List (Arrival ρ)
  collected : List (Arrival ρ)
  delivered : List Downlink

variable {ρ σ : Type}

def Task.mayAnswer (t : Task ρ) : Bool :=
  match t.stage with
  | .asking | .holding .. => true
  | .finished _ | .gone _ => false

def Task.holdsSendingEnd (t : Task ρ) : Bool :=
  match t.stage with
  | .gone _ => false
  | _ => true

def Stage.ending? : Stage ρ → Option Ending
  | .asking | .holding .. => none
  | .finished how | .gone how => some how

def Task.answered? (t : Task ρ) : Option String :=
  if t.stage.ending? = some .answered then some t.id else none

def Task.asking? (t : Task ρ) : Option String :=
  match t.stage with
  | .asking => some t.id
  | _ => none

def Phase.sendingEnds : Phase → Nat
  | .starting => 1
  | .receiving | .delivering .. | .closed => 0

/-- The same tasks, but one of them has gone on. -/
def Moves (tasks : List (Task ρ)) (t t' : Task ρ) (tasks' : List (Task ρ)) : Prop :=
  ∃ before after, tasks = before ++ t :: after ∧ tasks' = before ++ t' :: after

namespace Fanout

def start (ids : List String) (s : σ) : Fanout ρ σ where
  tasks := ids.map (⟨·, .asking⟩)
  capacity := ids.length
  sendingEnds := ids.length + 1
  queue := []
  phase := .starting
  tally := .start
  sink := s
  enqueued := []
  collected := []
  delivered := []

/-- The loop takes an answer; a downlink that is to be delivered is waited for. -/
def receive (downlinkOf : ρ → Option Downlink) (z : Fanout ρ σ) (a : Arrival ρ)
    (rest : List (Arrival ρ)) : Fanout ρ σ :=
  let z := { z with queue := rest, collected := z.collected ++ [a] }
  let t := { z.tally with responses := z.tally.responses + 1 }
  if t.accepted.isSome then { z with tally := t }
  else match downlinkOf a.answer with
    | none => { z with tally := { t with accepted := some a.id } }
    | some m =>
      { z with phase := .delivering a.id m, tally := { t with deliveries := t.deliveries + 1 } }

def settleDelivery (deliver : σ → Downlink → Bool × σ) (z : Fanout ρ σ) (id : String)
    (m : Downlink) : Fanout ρ σ :=
  let z' := { z with
    phase := .receiving, sink := (deliver z.sink m).2, delivered := z.delivered ++ [m] }
  if (deliver z.sink m).1 then { z' with tally := { z.tally with accepted := some id } } else z'

end Fanout

inductive Step (deliver : σ → Downlink → Bool × σ) (downlinkOf : ρ → Option Downlink) :
    Fanout ρ σ → Fanout ρ σ → Prop
  | answer {z tasks id time answer}
      (h : Moves z.tasks ⟨id, .asking⟩ ⟨id, .holding time answer⟩ tasks) :
      Step deliver downlinkOf z { z with tasks }
  | fail {z tasks id how} (h : Moves z.tasks ⟨id, .asking⟩ ⟨id, .finished how⟩ tasks)
      (hhow : how ≠ .answered) : Step deliver downlinkOf z { z with tasks }
  | enqueue {z tasks id time answer}
      (h : Moves z.tasks ⟨id, .holding time answer⟩ ⟨id, .finished .answered⟩ tasks)
      (hroom : z.queue.length < z.capacity) : Step deliver downlinkOf z
        { z with
          tasks
          queue := z.queue ++ [⟨id, time, answer⟩]
          enqueued := z.enqueued ++ [⟨id, time, answer⟩] }
  | leave {z tasks id how} (h : Moves z.tasks ⟨id, .finished how⟩ ⟨id, .gone how⟩ tasks) :
      Step deliver downlinkOf z { z with tasks, sendingEnds := z.sendingEnds - 1 }
  | begin {z} (h : z.phase = .starting) : Step deliver downlinkOf z
      { z with phase := .receiving, sendingEnds := z.sendingEnds - 1 }
  | receive {z a rest} (h : z.phase = .receiving) (hqueue : z.queue = a :: rest) :
      Step deliver downlinkOf z (z.receive downlinkOf a rest)
  | settle {z id m} (h : z.phase = .delivering id m) :
      Step deliver downlinkOf z (z.settleDelivery deliver id m)
  | close {z} (h : z.phase = .receiving) (hqueue : z.queue = []) (hends : z.sendingEnds = 0) :
      Step deliver downlinkOf z { z with phase := .closed }

abbrev Reaches (deliver : σ → Downlink → Bool × σ) (downlinkOf : ρ → Option Downlink) :
    Fanout ρ σ → Fanout ρ σ → Prop :=
  Relation.ReflTransGen (Step deliver downlinkOf)

theorem Moves.countP {tasks tasks' : List (Task ρ)} {t t' : Task ρ} (h : Moves tasks t t' tasks')
    (p : Task ρ → Bool) : tasks'.countP p + (p t).toNat = tasks.countP p + (p t').toNat := by
  obtain ⟨before, after, rfl, rfl⟩ := h
  simp only [List.countP_append, List.countP_cons]
  cases p t <;> cases p t' <;> simp <;> omega

theorem Moves.countP_pos {tasks tasks' : List (Task ρ)} {t t' : Task ρ} (h : Moves tasks t t' tasks')
    {p : Task ρ → Bool} (hp : p t = true) : 0 < tasks.countP p := by
  obtain ⟨before, after, rfl, -⟩ := h
  exact List.countP_pos_iff.mpr ⟨t, by simp, hp⟩

theorem Moves.filterMap_perm {α : Type} {tasks tasks' : List (Task ρ)} {t t' : Task ρ}
    (h : Moves tasks t t' tasks') (f : Task ρ → Option α) :
    ((f t).toList ++ tasks'.filterMap f).Perm ((f t').toList ++ tasks.filterMap f) := by
  obtain ⟨before, after, rfl, rfl⟩ := h
  rw [List.filterMap_append, List.filterMap_append]
  cases ht : f t with
  | none =>
    cases ht' : f t' with
    | none => simp [ht, ht']
    | some y => simp [ht, ht']
  | some x =>
    cases ht' : f t' with
    | none => simpa [ht, ht'] using List.perm_middle.symm
    | some y =>
      simp only [List.filterMap_cons_some ht, List.filterMap_cons_some ht', Option.toList_some,
        List.singleton_append]
      exact ((List.perm_middle.cons x).trans (.swap y x _)).trans (List.perm_middle.symm.cons y)

variable {deliver : σ → Downlink → Bool × σ} {downlinkOf : ρ → Option Downlink} {s : σ}
  {ids : List String} {z z' : Fanout ρ σ}

/-- The loop is where taking the answers in turn, without waiting, would have brought it. -/
def Fanout.Agrees (deliver : σ → Downlink → Bool × σ) (downlinkOf : ρ → Option Downlink) (s : σ)
    (z : Fanout ρ σ) : Prop :=
  match z.phase with
  | .delivering id m => ∃ before a t, z.collected = before ++ [a] ∧ a.id = id ∧
      downlinkOf a.answer = some m ∧
      collect (recording deliver) downlinkOf (s, []) before = ((z.sink, z.delivered), t) ∧
      t.accepted = none ∧ z.tally = ⟨none, t.responses + 1, t.deliveries + 1⟩
  | _ => collect (recording deliver) downlinkOf (s, []) z.collected =
      ((z.sink, z.delivered), z.tally)

theorem collect_concat (deliver : σ → Downlink → Bool × σ) (downlinkOf : ρ → Option Downlink)
    (s : σ) (answers : List (Arrival ρ)) (a : Arrival ρ) :
    collect deliver downlinkOf s (answers ++ [a]) =
      turn deliver downlinkOf (collect deliver downlinkOf s answers) a := by
  rw [collect_eq_foldl, List.foldl_append]
  rfl

theorem Fanout.receive_frame (downlinkOf : ρ → Option Downlink) (hphase : z.phase = .receiving)
    (a : Arrival ρ) (rest : List (Arrival ρ)) : ∃ phase tally, phase ≠ .closed ∧ phase.sendingEnds = 0 ∧
      z.receive downlinkOf a rest =
        { z with queue := rest, collected := z.collected ++ [a], phase, tally } := by
  by_cases hwon : z.tally.accepted.isSome = true
  · exact ⟨.receiving, _, by decide, rfl, by simp [receive, hwon, hphase]; rfl⟩
  · cases hm : downlinkOf a.answer with
    | none => exact ⟨.receiving, _, by decide, rfl, by simp [receive, hwon, hm, hphase]; rfl⟩
    | some m =>
      exact ⟨.delivering a.id m, _, nofun, rfl, by simp [receive, hwon, hm]; rfl⟩

theorem Fanout.settleDelivery_frame (deliver : σ → Downlink → Bool × σ) (z : Fanout ρ σ)
    (id : String) (m : Downlink) : ∃ tally sink delivered,
    z.settleDelivery deliver id m = { z with phase := .receiving, tally, sink, delivered } := by
  rw [settleDelivery]
  split
  · exact ⟨_, _, _, rfl⟩
  · exact ⟨_, _, _, rfl⟩

theorem Fanout.Agrees.receive (h : z.Agrees deliver downlinkOf s) (hphase : z.phase = .receiving)
    (a : Arrival ρ) (rest : List (Arrival ρ)) :
    (z.receive downlinkOf a rest).Agrees deliver downlinkOf s := by
  simp only [Agrees, hphase] at h
  have hturn := collect_concat (recording deliver) downlinkOf (s, []) z.collected a
  rw [h] at hturn
  by_cases hwon : z.tally.accepted.isSome = true
  · simpa [Agrees, Fanout.receive, hwon, hphase, turn, Tally.take] using hturn
  · cases hm : downlinkOf a.answer with
    | none => simpa [Agrees, Fanout.receive, hwon, hphase, hm, turn, Tally.take] using hturn
    | some m =>
      have hnone : z.tally.accepted = none := by simpa using hwon
      simp only [Agrees, Fanout.receive, hwon, hm]
      exact ⟨z.collected, a, z.tally, rfl, rfl, hm, h, hnone, by simp [hnone]⟩

theorem Fanout.Agrees.settleDelivery {id : String} {m : Downlink}
    (h : z.Agrees deliver downlinkOf s) (hphase : z.phase = .delivering id m) :
    (z.settleDelivery deliver id m).Agrees deliver downlinkOf s := by
  simp only [Agrees, hphase] at h
  obtain ⟨before, a, t, hcollected, rfl, hm, hbefore, hnone, htally⟩ := h
  have hturn := collect_concat (recording deliver) downlinkOf (s, []) before a
  rw [hbefore, ← hcollected] at hturn
  obtain ⟨delivered, sink, hd⟩ : ∃ delivered sink, deliver z.sink m = (delivered, sink) :=
    ⟨_, _, rfl⟩
  cases delivered with
  | false =>
    simpa [Agrees, Fanout.settleDelivery, hd, turn, Tally.take, hnone, hm, recording, htally] using hturn
  | true =>
    simpa [Agrees, Fanout.settleDelivery, hd, turn, Tally.take, hnone, hm, recording, htally] using hturn

structure Sound (deliver : σ → Downlink → Bool × σ) (downlinkOf : ρ → Option Downlink)
    (ids : List String) (s : σ) (z : Fanout ρ σ) : Prop where
  names : z.tasks.map (·.id) = ids
  capacity : z.capacity = ids.length
  sendingEnds : z.sendingEnds = z.tasks.countP Task.holdsSendingEnd + z.phase.sendingEnds
  room : z.enqueued.length + z.tasks.countP Task.mayAnswer ≤ ids.length
  answered : (z.enqueued.map (·.id)).Perm (z.tasks.filterMap Task.answered?)
  kept : z.enqueued = z.collected ++ z.queue
  closed : z.phase = .closed → z.queue = [] ∧ z.sendingEnds = 0
  agrees : z.Agrees deliver downlinkOf s

theorem sound_start (deliver : σ → Downlink → Bool × σ) (downlinkOf : ρ → Option Downlink)
    (ids : List String) (s : σ) : Sound deliver downlinkOf ids s (Fanout.start ids s) := by
  have hall : ∀ p : Task ρ → Bool, (∀ id, p ⟨id, .asking⟩ = true) →
      (ids.map fun id => (⟨id, .asking⟩ : Task ρ)).countP p = ids.length := by
    intro p hp
    rw [List.countP_eq_length.mpr, List.length_map]
    simp [hp]
  constructor
  · simp [Fanout.start, Function.comp_def]
  · rfl
  · simp only [Fanout.start, hall Task.holdsSendingEnd fun _ => rfl, Phase.sendingEnds]
  · simp only [Fanout.start, hall Task.mayAnswer fun _ => rfl, List.length_nil, Nat.zero_add,
      Nat.le_refl]
  · simp [Fanout.start, Task.answered?, Stage.ending?, List.filterMap_map, Function.comp_def]
  · rfl
  · intro h
    cases h
  · rfl

theorem Sound.move (hz : Sound deliver downlinkOf ids s z) {t t' : Task ρ} {tasks : List (Task ρ)}
    {ends : Nat} {queue enqueued : List (Arrival ρ)} (h : Moves z.tasks t t' tasks)
    (hid : t'.id = t.id) (ht : t.holdsSendingEnd = true)
    (hends : ends + 1 = z.sendingEnds + t'.holdsSendingEnd.toNat)
    (hroom : enqueued.length + t'.mayAnswer.toNat ≤ z.enqueued.length + t.mayAnswer.toNat)
    (hanswered : (t.answered?.toList ++ enqueued.map (·.id)).Perm
      (t'.answered?.toList ++ z.enqueued.map (·.id)))
    (hkept : enqueued = z.collected ++ queue) :
    Sound deliver downlinkOf ids s { z with tasks, sendingEnds := ends, queue, enqueued } := by
  have hpos := h.countP_pos ht
  have hhold := h.countP Task.holdsSendingEnd
  have hmay := h.countP Task.mayAnswer
  rw [ht, Bool.toNat_true] at hhold
  have hcount := hz.sendingEnds
  have hbound := hz.room
  refine ⟨?_, hz.capacity, ?_, ?_, ?_, hkept, fun hphase => ?_, hz.agrees⟩
  · obtain ⟨before, after, hbefore, hafter⟩ := h
    rw [← hz.names, hbefore]
    simp [hafter, hid]
  · dsimp only
    omega
  · dsimp only
    omega
  · exact (List.perm_append_left_iff _).mp
      ((hanswered.trans (hz.answered.append_left _)).trans (h.filterMap_perm _).symm)
  -- the task still held a sending end, so the queue had not closed
  · have hnone := (hz.closed hphase).2
    omega

theorem Sound.step (hz : Sound deliver downlinkOf ids s z) (hstep : Step deliver downlinkOf z z') :
    Sound deliver downlinkOf ids s z' := by
  cases hstep with
  | answer h => exact hz.move h rfl rfl rfl (Nat.le_refl _) (.refl _) hz.kept
  | @fail tasks id how h hhow =>
    have hnone : (⟨id, .finished how⟩ : Task ρ).answered? = none := by
      simpa [Task.answered?, Stage.ending?] using hhow
    refine hz.move h rfl rfl rfl (Nat.le_succ _) ?_ hz.kept
    rw [hnone]
    exact .refl _
  | @enqueue tasks id time answer h hfree =>
    refine hz.move h rfl rfl rfl ?_ ?_ ?_
    · rw [List.length_append]
      exact Nat.le_refl _
    · rw [List.map_append]
      exact List.perm_append_singleton id _
    · rw [hz.kept, List.append_assoc]
  | leave h =>
    have hpos := h.countP_pos (p := Task.holdsSendingEnd) rfl
    have hends := hz.sendingEnds
    refine hz.move h rfl rfl ?_ (Nat.le_refl _) (.refl _) hz.kept
    rw [Nat.sub_add_cancel (by omega)]
    rfl
  | begin h =>
    obtain ⟨hnames, hcapacity, hends, hroom, hanswered, hkept, -, hagrees⟩ := hz
    simp only [Fanout.Agrees, h] at hagrees
    simp only [h, Phase.sendingEnds] at hends
    refine ⟨hnames, hcapacity, ?_, hroom, hanswered, hkept, nofun, hagrees⟩
    simp only [hends, Phase.sendingEnds]
    omega
  | @receive a rest h hqueue =>
    have hagrees := hz.agrees.receive h a rest
    obtain ⟨phase, tally, hopen, hnone, hframe⟩ :=
      Fanout.receive_frame downlinkOf h a rest
    rw [hframe] at hagrees ⊢
    obtain ⟨hnames, hcapacity, hends, hroom, hanswered, hkept, -, -⟩ := hz
    refine ⟨hnames, hcapacity, ?_, hroom, hanswered, ?_, fun hphase => absurd hphase hopen, hagrees⟩
    · rw [h] at hends
      exact hends.trans (congrArg _ hnone.symm)
    · simpa only [hqueue, List.append_assoc, List.singleton_append] using hkept
  | settle h =>
    have hagrees := hz.agrees.settleDelivery h
    obtain ⟨tally, sink, delivered, hframe⟩ := Fanout.settleDelivery_frame deliver z _ _
    rw [hframe] at hagrees ⊢
    obtain ⟨hnames, hcapacity, hends, hroom, hanswered, hkept, -, -⟩ := hz
    refine ⟨hnames, hcapacity, ?_, hroom, hanswered, hkept, nofun, hagrees⟩
    simpa only [h, Phase.sendingEnds] using hends
  | close h hqueue hnone =>
    obtain ⟨hnames, hcapacity, hends, hroom, hanswered, hkept, -, hagrees⟩ := hz
    simp only [Fanout.Agrees, h] at hagrees
    refine ⟨hnames, hcapacity, ?_, hroom, hanswered, hkept, fun _ => ⟨hqueue, hnone⟩, hagrees⟩
    simpa only [h, Phase.sendingEnds] using hends

theorem Sound.reaches (hz : Sound deliver downlinkOf ids s z) (h : Reaches deliver downlinkOf z z') :
    Sound deliver downlinkOf ids s z' := by
  induction h with
  | refl => exact hz
  | tail _ hstep ih => exact ih.step hstep

theorem Sound.room_of_holding (hz : Sound deliver downlinkOf ids s z) {t : Task ρ} {time : Nat}
    {answer : ρ} (ht : t ∈ z.tasks) (hstage : t.stage = .holding time answer) :
    z.queue.length < z.capacity := by
  have hpos : 0 < z.tasks.countP Task.mayAnswer :=
    List.countP_pos_iff.mpr ⟨t, ht, by simp only [Task.mayAnswer, hstage]⟩
  have hroom := hz.room
  have hlength := congrArg List.length hz.kept
  have hcapacity := hz.capacity
  rw [List.length_append] at hlength
  omega

theorem Sound.gone_of_closed (hz : Sound deliver downlinkOf ids s z) (hclosed : z.phase = .closed) :
    ∀ t ∈ z.tasks, ∃ how, t.stage = .gone how := by
  have hnone : z.tasks.countP Task.holdsSendingEnd = 0 := by
    have hends := hz.sendingEnds
    have hzero := (hz.closed hclosed).2
    omega
  intro t ht
  have hfree := List.countP_eq_zero.mp hnone t ht
  cases hstage : t.stage with
  | gone how => exact ⟨how, rfl⟩
  | asking | holding | finished => simp [Task.holdsSendingEnd, hstage] at hfree

def Stage.work : Stage ρ → Nat
  | .asking => 5
  | .holding .. => 4
  | .finished _ => 1
  | .gone _ => 0

def Phase.work : Phase → Nat
  | .starting | .delivering .. => 2
  | .receiving => 1
  | .closed => 0

def taskWork (tasks : List (Task ρ)) : Nat := (tasks.map (·.stage.work)).sum

def Fanout.work (z : Fanout ρ σ) : Nat := taskWork z.tasks + 2 * z.queue.length + z.phase.work

theorem Moves.work {tasks tasks' : List (Task ρ)} {t t' : Task ρ} (h : Moves tasks t t' tasks') :
    taskWork tasks' + t.stage.work = taskWork tasks + t'.stage.work := by
  obtain ⟨before, after, rfl, rfl⟩ := h
  simp only [taskWork, List.map_append, List.map_cons, List.sum_append, List.sum_cons]
  omega

theorem Phase.work_le (phase : Phase) : phase.work ≤ 2 := by
  cases phase <;> simp [work]

theorem Step.work_lt (h : Step deliver downlinkOf z z') : z'.work < z.work := by
  cases h with
  | @answer tasks _ _ _ h =>
    have hwork : taskWork tasks + 5 = taskWork z.tasks + 4 := h.work
    simp only [Fanout.work]
    omega
  | @fail tasks _ _ h hhow =>
    have hwork : taskWork tasks + 5 = taskWork z.tasks + 1 := h.work
    simp only [Fanout.work]
    omega
  | @enqueue tasks _ _ _ h hfree =>
    have hwork : taskWork tasks + 4 = taskWork z.tasks + 1 := h.work
    simp only [Fanout.work, List.length_append, List.length_singleton]
    omega
  | @leave tasks _ _ h =>
    have hwork : taskWork tasks + 1 = taskWork z.tasks + 0 := h.work
    simp only [Fanout.work]
    omega
  | begin h =>
    simp only [Fanout.work, h, Phase.work]
    omega
  | @receive a rest h hqueue =>
    obtain ⟨phase, tally, -, -, hframe⟩ := Fanout.receive_frame downlinkOf h a rest
    have hafter := phase.work_le
    have hbefore : z.phase.work = 1 := by rw [h, Phase.work]
    rw [hframe]
    simp only [Fanout.work, hqueue, List.length_cons]
    omega
  | @settle id m h =>
    obtain ⟨tally, sink, delivered, hframe⟩ := Fanout.settleDelivery_frame deliver z id m
    rw [hframe]
    simp only [Fanout.work, h, Phase.work]
    omega
  | close h hqueue hnone =>
    simp only [Fanout.work, h, Phase.work]
    omega

theorem exists_moves {tasks : List (Task ρ)} {t : Task ρ} (ht : t ∈ tasks) (t' : Task ρ) :
    ∃ tasks', Moves tasks t t' tasks' := by
  obtain ⟨before, after, rfl⟩ := List.append_of_mem ht
  exact ⟨_, before, after, rfl, rfl⟩

def Fanout.NoneHolds (z : Fanout ρ σ) : Prop :=
  ∀ t ∈ z.tasks, ∀ time answer, t.stage ≠ .holding time answer

theorem Moves.noneHolds {tasks : List (Task ρ)} {t t' : Task ρ} (h : Moves z.tasks t t' tasks)
    (hz : z.NoneHolds) (ht' : ∀ time answer, t'.stage ≠ .holding time answer) :
    ∀ x ∈ tasks, ∀ time answer, x.stage ≠ .holding time answer := by
  obtain ⟨before, after, hbefore, rfl⟩ := h
  intro x hx
  rcases List.mem_append.mp hx with hx | hx
  · exact hz x (by simp [hbefore, hx])
  · rcases List.mem_cons.mp hx with rfl | hx
    · exact ht'
    · exact hz x (by simp [hbefore, hx])

theorem Sound.exists_step (hz : Sound deliver downlinkOf ids s z) (hopen : z.phase ≠ .closed) :
    ∃ z', Step deliver downlinkOf z z' ∧
      (z.NoneHolds → z'.NoneHolds ∧ z'.enqueued = z.enqueued) := by
  cases hphase : z.phase with
  | starting => exact ⟨_, .begin hphase, fun h => ⟨h, rfl⟩⟩
  | delivering id m =>
    obtain ⟨tally, sink, delivered, hframe⟩ := Fanout.settleDelivery_frame deliver z id m
    exact ⟨_, .settle hphase, fun h => by rw [hframe]; exact ⟨h, rfl⟩⟩
  | closed => exact absurd hphase hopen
  | receiving =>
    cases hqueue : z.queue with
    | cons a rest =>
      obtain ⟨phase, tally, -, -, hframe⟩ := Fanout.receive_frame downlinkOf hphase a rest
      exact ⟨_, .receive hphase hqueue, fun h => by rw [hframe]; exact ⟨h, rfl⟩⟩
    | nil =>
      by_cases hends : z.sendingEnds = 0
      · exact ⟨_, .close hphase hqueue hends, fun h => ⟨h, rfl⟩⟩
      -- some task still holds a sending end and can go on
      · have hpos : 0 < z.tasks.countP Task.holdsSendingEnd := by
          have hcount := hz.sendingEnds
          simp only [hphase, Phase.sendingEnds] at hcount
          omega
        obtain ⟨⟨id, stage⟩, ht, hholds⟩ := List.countP_pos_iff.mp hpos
        cases stage with
        | asking =>
          obtain ⟨tasks, hmoves⟩ := exists_moves ht ⟨id, .finished .late⟩
          exact ⟨_, .fail hmoves nofun, fun h => ⟨hmoves.noneHolds h nofun, rfl⟩⟩
        | holding time answer =>
          obtain ⟨tasks, hmoves⟩ := exists_moves ht ⟨id, .finished .answered⟩
          exact ⟨_, .enqueue hmoves (hz.room_of_holding ht rfl), fun h => absurd rfl (h _ ht _ _)⟩
        | finished how =>
          obtain ⟨tasks, hmoves⟩ := exists_moves ht ⟨id, .gone how⟩
          exact ⟨_, .leave hmoves, fun h => ⟨hmoves.noneHolds h nofun, rfl⟩⟩
        | gone how => cases hholds

theorem Sound.reaches_closed (hz : Sound deliver downlinkOf ids s z) (hnone : z.NoneHolds) :
    ∃ z', Reaches deliver downlinkOf z z' ∧ z'.phase = .closed ∧ z'.enqueued = z.enqueued := by
  induction hwork : z.work using Nat.strongRecOn generalizing z with
  | ind work ih =>
    by_cases hclosed : z.phase = .closed
    · exact ⟨z, .refl, hclosed, rfl⟩
    · obtain ⟨z₁, hstep, hquiet⟩ := hz.exists_step hclosed
      obtain ⟨hnone₁, hsame⟩ := hquiet hnone
      obtain ⟨z', hreaches, hphase, henqueued⟩ :=
        ih z₁.work (hwork ▸ hstep.work_lt) (hz.step hstep) hnone₁ rfl
      exact ⟨z', .head hstep hreaches, hphase, henqueued.trans hsame⟩

theorem mem_of_asking? {tasks : List (Task ρ)} {id : String}
    (h : id ∈ tasks.filterMap Task.asking?) : ⟨id, .asking⟩ ∈ tasks := by
  obtain ⟨⟨id', stage⟩, ht, hid⟩ := List.mem_filterMap.mp h
  cases stage with
  | asking =>
    obtain rfl := Option.some.inj hid
    exact ht
  | holding | finished | gone => cases hid

theorem Sound.reaches_enqueued (hz : Sound deliver downlinkOf ids s z) (hnone : z.NoneHolds)
    {answers : List (Arrival ρ)}
    (h : (answers.map (·.id)).Subperm (z.tasks.filterMap Task.asking?)) :
    ∃ z', Reaches deliver downlinkOf z z' ∧ z'.NoneHolds ∧ z'.enqueued = z.enqueued ++ answers := by
  induction answers generalizing z with
  | nil => exact ⟨z, .refl, hnone, (List.append_nil _).symm⟩
  | cons a answers ih =>
    obtain ⟨before, after, hsplit⟩ := List.append_of_mem (mem_of_asking? (h.subset List.mem_cons_self))
    let tasks₁ := before ++ ⟨a.id, .holding a.time a.answer⟩ :: after
    let tasks₂ := before ++ ⟨a.id, .finished .answered⟩ :: after
    have hanswer : Step deliver downlinkOf z { z with tasks := tasks₁ } :=
      .answer ⟨before, after, hsplit, rfl⟩
    have hroom : z.queue.length < z.capacity :=
      (hz.step hanswer).room_of_holding (t := ⟨a.id, .holding a.time a.answer⟩) (by simp [tasks₁]) rfl
    have henqueue : Step deliver downlinkOf { z with tasks := tasks₁ }
        { z with tasks := tasks₂, queue := z.queue ++ [a], enqueued := z.enqueued ++ [a] } :=
      .enqueue ⟨before, after, rfl, rfl⟩ hroom
    have hmoves : Moves z.tasks ⟨a.id, .asking⟩ ⟨a.id, .finished .answered⟩ tasks₂ :=
      ⟨before, after, hsplit, rfl⟩
    have hrest : (answers.map (·.id)).Subperm (tasks₂.filterMap Task.asking?) :=
      (List.subperm_cons a.id).mp ((hmoves.filterMap_perm Task.asking?).subperm_left.mpr h)
    obtain ⟨z', hreaches, hnone', henqueued⟩ :=
      ih ((hz.step hanswer).step henqueue) (hmoves.noneHolds hnone nofun) hrest
    refine ⟨z', .head hanswer (.head henqueue hreaches), hnone', ?_⟩
    rw [henqueued, List.append_assoc, List.singleton_append]

/-- The answers that arrive before the deadline can be put into the queue in any order. -/
theorem reaches_closed_with (deliver : σ → Downlink → Bool × σ) (downlinkOf : ρ → Option Downlink)
    (s : σ) {deadline : Nat} {peers : List (Peer ρ)} {answers : List (Arrival ρ)}
    (h : answers.Perm (peers.filterMap (·.arrival? deadline))) :
    ∃ z, Reaches deliver downlinkOf (Fanout.start (peers.map (·.id)) s) z ∧ z.phase = .closed ∧
      z.enqueued = answers := by
  have hids : (Fanout.start (peers.map (·.id)) s : Fanout ρ σ).tasks.filterMap Task.asking? =
      peers.map (·.id) := by
    simp [Task.asking?, Fanout.start, List.filterMap_map, Function.comp_def]
  have hsub : ((peers.filterMap (·.arrival? deadline)).map (·.id)).Sublist (peers.map (·.id)) := by
    clear h hids
    induction peers with
    | nil => exact List.Sublist.refl []
    | cons p peers ih =>
      cases ha : p.arrival? deadline with
      | none => simpa [ha] using ih.cons p.id
      | some a => simpa [ha, id_of_arrival? ha] using ih
  have hz := sound_start deliver downlinkOf (peers.map (·.id)) s
  have hnone : (Fanout.start (peers.map (·.id)) s : Fanout ρ σ).NoneHolds := by
    intro t ht
    obtain ⟨id, -, rfl⟩ := List.mem_map.mp ht
    exact nofun
  obtain ⟨z₁, hfilled, hnone₁, henqueued⟩ := hz.reaches_enqueued hnone
    (hids ▸ (h.map _).subperm.trans hsub.subperm)
  obtain ⟨z, hdrained, hclosed, hsame⟩ := (hz.reaches hfilled).reaches_closed hnone₁
  exact ⟨z, hfilled.trans hdrained, hclosed, hsame.trans henqueued⟩

/-- What has become of a race after any steps, and that every order of the answers comes about. -/
theorem enqueue_order_decides (deadline : Nat) (peers : List (Peer ρ))
    (deliver : σ → Downlink → Bool × σ) (downlinkOf : ρ → Option Downlink) (s : σ) :
    let start : Fanout ρ σ := .start (peers.map (·.id)) s
    (∀ z, Reaches deliver downlinkOf start z →
      z.tasks.map (·.id) = peers.map (·.id) ∧ z.capacity = peers.length ∧
      z.queue.length + z.collected.length + z.tasks.countP Task.mayAnswer ≤ peers.length ∧
      (∀ t ∈ z.tasks, ∀ time answer, t.stage = .holding time answer →
        z.queue.length < z.capacity) ∧
      z.enqueued = z.collected ++ z.queue ∧
      (z.enqueued.map (·.id)).Perm (z.tasks.filterMap Task.answered?) ∧
      (z.phase = .closed →
        (∀ t ∈ z.tasks, ∃ how, t.stage = .gone how) ∧ z.collected = z.enqueued ∧
        ((z.sink, z.delivered), z.tally) =
          collect (recording deliver) downlinkOf (s, []) z.enqueued) ∧
      (z.phase ≠ .closed → ∃ z', Step deliver downlinkOf z z') ∧
      ∀ z', Step deliver downlinkOf z z' → z'.work < z.work) ∧
    ∀ answers, answers.Perm (peers.filterMap (·.arrival? deadline)) →
      ∃ z, Reaches deliver downlinkOf start z ∧ z.phase = .closed ∧ z.enqueued = answers := by
  intro start
  refine ⟨fun z hreaches => ?_, fun answers h => reaches_closed_with deliver downlinkOf s h⟩
  have hz := (sound_start deliver downlinkOf (peers.map (·.id)) s).reaches hreaches
  have hcapacity := hz.capacity
  have hroom := hz.room
  have hlength := congrArg List.length hz.kept
  rw [List.length_map] at hcapacity hroom
  rw [List.length_append] at hlength
  refine ⟨hz.names, hcapacity, by omega, fun t ht _ _ => hz.room_of_holding ht, hz.kept,
    hz.answered, fun hclosed => ?_, fun hopen => ?_, fun z' => Step.work_lt⟩
  · obtain ⟨hempty, hends⟩ := hz.closed hclosed
    have hall : z.collected = z.enqueued := by rw [hz.kept, hempty, List.append_nil]
    refine ⟨hz.gone_of_closed hclosed, hall, ?_⟩
    have hagrees := hz.agrees
    simp only [Fanout.Agrees, hclosed] at hagrees
    rw [← hall, hagrees]
  · obtain ⟨z', hstep, -⟩ := hz.exists_step hopen
    exact ⟨z', hstep⟩

end LorawanRouting.Race
