import ObjectGraph.Event

/-!
# Outcomes of operations

An operation on a state ends with a result or an error, and in either case with a state and with
the events that it reported, in their order.
-/

namespace ObjectGraph

/-- How an operation ended. -/
structure Outcome (σ ε α : Type) where
  result : Except ε α
  state : σ
  events : List Event := []

namespace Outcome

variable {σ τ ε ζ α β : Type}

/-- An operation that succeeded and reported nothing. -/
def pure (state : σ) (a : α) : Outcome σ ε α := ⟨.ok a, state, []⟩

def failed (state : σ) (e : ε) : Outcome σ ε α := ⟨.error e, state, []⟩

def ofExcept (state : σ) (result : Except ε α) : Outcome σ ε α := ⟨result, state, []⟩

def mapState (f : σ → τ) (o : Outcome σ ε α) : Outcome τ ε α := ⟨o.result, f o.state, o.events⟩

def map (f : α → β) (o : Outcome σ ε α) : Outcome σ ε β := ⟨o.result.map f, o.state, o.events⟩

def mapError (f : ε → ζ) (o : Outcome σ ε α) : Outcome σ ζ α :=
  ⟨o.result.mapError f, o.state, o.events⟩

/-- Goes on with the result if there is one; the events of both parts are reported. -/
def andThen (o : Outcome σ ε α) (next : α → σ → Outcome σ ε β) : Outcome σ ε β :=
  match o.result with
  | .error e => ⟨.error e, o.state, o.events⟩
  | .ok a =>
    let after := next a o.state
    ⟨after.result, after.state, o.events ++ after.events⟩

end Outcome

end ObjectGraph
