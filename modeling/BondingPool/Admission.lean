import BondingPool.Value
import BondingPool.Fixed

/-!
# Admission of loose values

A door takes loose values and either finds a value misused, so that the request has no meaning,
or asks the library proper, which may refuse the request for a reason of its own. Doors check in
a fixed order and the first fault found is the answer: the operands of a fixed-point number are
asked for their kind first, in the order they are given, and only then for their size.
-/

namespace BondingPool

inductive Misuse
  | notInteger (operand : String)
  | notBytes
  | noSum (kind : String)
  | noOrder (kind : String)
  | unknownDirection (shown : String)
  deriving DecidableEq, Repr

def Misuse.message : Misuse → String
  | .notInteger operand => operand ++ " must be an int"
  | .notBytes => "data must be bytes-like"
  | .noSum kind => s!"unsupported operand type(s) for +: 'int' and '{kind}'"
  | .noOrder kind => s!"'>' not supported between instances of 'int' and '{kind}'"
  | .unknownDirection shown => "unknown trade direction: " ++ shown

inductive Fault (ρ : Type)
  | misuse (cause : Misuse)
  | refused (reason : ρ)
  deriving DecidableEq, Repr

abbrev Admitted (ρ α : Type) := Except (Fault ρ) α

namespace Admitted

variable {ρ α : Type}

def ofExcept (answer : Except ρ α) : Admitted ρ α := answer.mapError .refused

def misuse (cause : Misuse) : Admitted ρ α := .error (.misuse cause)

/-- A refusal as an answer, so that only misuse is an error. -/
def outcome : Admitted ρ α → Except Misuse (Except ρ α)
  | .ok a => .ok (.ok a)
  | .error (.refused reason) => .ok (.error reason)
  | .error (.misuse cause) => .error cause

def integer (operand : String) (v : Value) : Admitted ρ Int :=
  match v.int? with
  | some n => .ok n
  | none => misuse (.notInteger operand)

def bytes (v : Value) : Admitted ρ (List UInt8) :=
  match v with
  | .bytes b => .ok b
  | _ => misuse .notBytes

end Admitted

namespace Fixed

/-! ### Fixed-point numbers -/

def admitRaw (raw : Value) : Admitted Failure Fixed := do
  let raw ← Admitted.integer "value" raw
  Admitted.ofExcept (ofRaw raw)

def admitInteger (n : Value) : Admitted Failure Fixed := do
  let n ← Admitted.integer "n" n
  Admitted.ofExcept (ofInt n)

def admitFraction (num den : Value) (r : Rounding) : Admitted Failure Fixed := do
  let num ← Admitted.integer "numerator" num
  let den ← Admitted.integer "denominator" den
  Admitted.ofExcept (ofFraction num den r)

def admitRoot (n : Value) : Admitted Failure Nat := do
  let n ← Admitted.integer "n" n
  Admitted.ofExcept (integerRoot n)

end Fixed

end BondingPool
