/-!
The answer of a call that may change a state, together with the state after the call. A call that
fails still leaves a state behind.
-/

namespace LorawanRouting

structure Reply (σ ε α : Type) where
  answer : Except ε α
  state : σ

namespace Reply

variable {σ τ ε δ α β : Type}

def mapState (f : σ → τ) (r : Reply σ ε α) : Reply τ ε α := ⟨r.answer, f r.state⟩

def mapError (f : ε → δ) (r : Reply σ ε α) : Reply σ δ α := ⟨r.answer.mapError f, r.state⟩

@[simp] theorem answer_mapState (f : σ → τ) (r : Reply σ ε α) :
    (r.mapState f).answer = r.answer := rfl

@[simp] theorem state_mapState (f : σ → τ) (r : Reply σ ε α) :
    (r.mapState f).state = f r.state := rfl

@[simp] theorem state_mapError (f : ε → δ) (r : Reply σ ε α) :
    (r.mapError f).state = r.state := rfl

end Reply

end LorawanRouting
