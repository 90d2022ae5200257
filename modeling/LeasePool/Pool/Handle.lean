import LeasePool.Pool

/-!
# Using a lease

A holder uses a connection through its lease for as long as the lease is valid. A revoked lease
refuses every use and leaves the connection, which another may hold by now, alone.

## Main definitions

* `Pool.perform`: one operation on a leased connection.
* `Pool.borrow`: several operations, each with its own answer.
* `Pool.Admits`: an operation is not refused.
* `Pool.inspectHandle`: a handle for inspection.
-/

namespace LeasePool

/-- An operation with its answer. -/
structure Answered where
  operation : Operation
  answer : operation.Answer

namespace Answered

/-- The failure of an operation, if it failed. -/
def failure? : Answered → Option BackendError
  | ⟨.close, .error cause⟩ | ⟨.rollback, .error cause⟩ | ⟨.execute _, .error cause⟩
  | ⟨.autoCommit, .error cause⟩ => some cause
  | _ => none

end Answered

namespace Pool

variable {σ : Type} (b : Backend σ)

/-- Perform operations on a connection, one after the other. -/
def performAll (connection : Nat) : List Operation → Environment σ → List Answered × Environment σ
  | [], e => ([], e)
  | operation :: rest, e =>
    let (answer, e) := e.ask b .holder connection operation
    let (answers, e) := performAll connection rest e
    (⟨operation, answer⟩ :: answers, e)

/-- Let the holder of a lease perform operations, unless the lease was revoked. -/
def borrow (p : Pool σ) (l : Lease) (operations : List Operation) :
    Except PoolError (List Answered) × Pool σ :=
  if p.IsValid l then
    let (answers, environment) := performAll b l.connection operations p.environment
    (.ok answers, { p with environment })
  else (.error (.invalidConnection l.connection), p)

/-- Let the holder of a lease perform one operation. Its failure is an error of the pool. -/
def perform (p : Pool σ) (l : Lease) (operation : Operation) : Except PoolError Answered × Pool σ :=
  if p.IsValid l then
    let (answer, environment) := p.environment.ask b .holder l.connection operation
    let answered : Answered := ⟨operation, answer⟩
    match answered.failure? with
    | some cause => (.error (.connection cause), { p with environment })
    | none => (.ok answered, { p with environment })
  else (.error (.invalidConnection l.connection), p)

/-- An operation is not refused: the pool answers otherwise, or does not remain as it was. -/
def Admits (p : Pool σ) (l : Lease) (operation : Operation) : Prop :=
  p.perform b l operation ≠ (.error (.invalidConnection l.connection), p)

/-- A revoked lease admits no operation. -/
theorem valid_of_admits {p : Pool σ} {l : Lease} {operation : Operation}
    (admits : p.Admits b l operation) : p.IsValid l :=
  Decidable.byContradiction fun isOver => admits (if_neg isOver)

/-- A handle for inspection. -/
def inspectHandle (p : Pool σ) (l : Lease) : String :=
  s!"PooledConnection \x7b id: {l.connection}, valid: " ++ toString (decide (p.IsValid l)) ++
    ", checkout_time: " ++ Duration.exactText (l.heldFor p.now) ++ ", .. \x7d"

end Pool

end LeasePool
