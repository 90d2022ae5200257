import LeasePool.Text.Digits

/-!
# Endpoints

An endpoint names a host and the number of a service on it, separated by the last colon of its text.

## Main definitions

* `Endpoint`: a host and the number of a service.
* `Endpoint.parse`: reads an endpoint, or says what is wrong with it.
-/

namespace LeasePool

/-- A host and the number of a service on it. -/
structure Endpoint where
  host : String
  number : Fin 0x10000
deriving DecidableEq

namespace Endpoint

/-- Why a text names no endpoint. -/
inductive Fault
  /-- There is no colon. -/
  | noNumber
  /-- What follows the last colon is no number of 16 bits. -/
  | badNumber
deriving DecidableEq

/-- A fault in words. -/
def Fault.message : Fault → String
  | noNumber => "invalid socket address"
  | badNumber => "invalid port value"

/-- Splits a text at its last colon, into what precedes it and what follows. -/
def splitAtLastColon? (cs : List Char) : Option (List Char × List Char) :=
  match cs.reverse.span (· ≠ ':') with
  | (after, ':' :: before) => some (before.reverse, after.reverse)
  | _ => none

/-- Reads an endpoint. -/
def parse (text : String) : Except Fault Endpoint :=
  match splitAtLastColon? text.toList with
  | none => .error .noNumber
  | some (host, number) =>
    match Text.below? 0x10000 number with
    | some number => .ok ⟨String.ofList host, number⟩
    | none => .error .badNumber

end Endpoint

end LeasePool
