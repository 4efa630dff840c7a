import BondingPool.Yaml.Place
import BondingPool.Yaml.Kind
import BondingPool.Value
import BondingPool.Text.Numeral
import BondingPool.Text.Lower
import BondingPool.Binary64

/-!
# Values of scalars

A text is read as what its node's kind asks for, whether the kind was found by its spelling or
named by a tag; a tag may ask for what the text is not. Underscores in numbers do not count, and a
sign comes first. Numbers to base sixty have their places between colons, each of them a numeral of
its own.
-/

namespace BondingPool.Yaml

abbrev Reading (α : Type) := Except ScalarFault α

def signed : Text → Reading (Bool × Text)
  | [] => .error .noDigits
  | c :: rest =>
    if c = .ofChar '-' then .ok (true, rest)
    else .ok (false, if c = .ofChar '+' then rest else c :: rest)

def behind? (start : String) (t : Text) : Option Text :=
  if (Text.ofString start).isPrefixOf t then some (t.drop start.length) else none

/-! ### Integers -/

def wholeTo (base : Nat) (t : Text) : Reading Int :=
  match t.chars?.bind (Text.integerTo? base) with
  | some n => .ok n
  | none => .error (.noInteger base t)

def wholeOfPlaces (value : Int) : List Text → Reading Int
  | [] => .ok value
  | place :: rest => do wholeOfPlaces (60 * value + (← wholeTo 10 place)) rest

def unsignedInteger (t : Text) : Reading Int :=
  match behind? "0b" t, behind? "0x" t, t with
  | some digits, _, _ => wholeTo 2 digits
  | none, some digits, _ => wholeTo 16 digits
  | none, none, [] => .error .noDigits
  | none, none, c :: rest =>
    if c = .ofChar '0' then if rest.isEmpty then .ok 0 else wholeTo 8 t
    else if t.contains (.ofChar ':') then wholeOfPlaces 0 (Text.split (.ofChar ':') t)
    else wholeTo 10 t

def withoutUnderscores (t : Text) : Text := t.filter (· != .ofChar '_')

def integerOf (t : Text) : Reading Int := do
  let (negative, t) ← signed (withoutUnderscores t)
  let n ← unsignedInteger t
  return if negative then -n else n

/-! ### Floating-point numbers -/

def decimalOf (t : Text) : Reading Binary64 :=
  match t.chars?.bind Binary64.ofNumeral? with
  | some x => .ok x
  | none => .error (.noFloat t)

def decimalsOf : List Text → Reading (List Binary64)
  | [] => .ok []
  | place :: rest => do
    let first ← decimalOf place
    return first :: (← decimalsOf rest)

/-- The sum of the places of a number to base sixty, from the last one on, with every product and
sum rounded. Each place counts as its base says, which has to be in range. -/
def sumOfPlaces (sum : Binary64) (base : Nat) : List Binary64 → Reading Binary64
  | [] => .ok sum
  | place :: rest =>
    let unit := Binary64.ofNat base
    if unit = .infinity false then .error .tooLarge
    else sumOfPlaces (sum.add (place.mul unit)) (60 * base) rest

def infinityWord : Text := .ofString ".inf"

def notANumberWord : Text := .ofString ".nan"

def unsignedFloat (t : Text) : Reading Binary64 :=
  if t = infinityWord then .ok (.infinity false)
  else if t = notANumberWord then .ok .notANumber
  else if t.contains (.ofChar ':') then do
    sumOfPlaces (.ofNat 0) 1 (← decimalsOf (Text.split (.ofChar ':') t)).reverse
  else decimalOf t

def plainFloat (t : Text) : Text := (withoutUnderscores t).lower

def floatOf (t : Text) : Reading Binary64 := do
  let (negative, t) ← signed (plainFloat t)
  let x ← unsignedFloat t
  return if negative then x.negate else x

def isNotANumberWord (t : Text) : Bool :=
  match signed (plainFloat t) with
  | .ok (_, rest) => rest == notANumberWord
  | .error _ => false

/-! ### Truth values, moments and bytes -/

def trueWords : List String := ["yes", "true", "on"]

def falseWords : List String := ["no", "false", "off"]

def truthOf (t : Text) : Reading Bool :=
  let word := t.lower
  if trueWords.any fun known => Text.ofString known == word then .ok true
  else if falseWords.any fun known => Text.ofString known == word then .ok false
  else .error (.noTruth word)

def timestampOf (t : Text) : Reading Value :=
  let cs := withoutFinalBreak (t.chars?.getD [])
  match dateOf? cs, momentOf? cs with
  | some reading, _ => (reading.map Value.date).mapError .calendar
  | none, some reading => (reading.map Value.moment).mapError .calendar
  | none, none => .error .noMoment

def sextet? (c : Char) : Option Nat :=
  if 'A' ≤ c && c ≤ 'Z' then some (c.toNat - 0x41)
  else if 'a' ≤ c && c ≤ 'z' then some (c.toNat - 0x47)
  else if c.isDigit then some (c.toNat + 4)
  else if c = '+' then some 62
  else if c = '/' then some 63
  else none

/-- The octets of groups of four digits to base sixty-four, the digits of a group that is not full
being given newest first with the number of equals signs behind the last. A group of two or three
digits is full with so many signs, and nothing counts after it; other characters never do. -/
def octetsOf? (group : List Nat) (signs : Nat) : List Char → Option (List UInt8)
  | [] => if group.isEmpty then some [] else none
  | c :: rest =>
    if c = '=' then
      match group with
      | [b, a] => if 1 ≤ signs then some [.ofNat (4 * a + b / 16)] else octetsOf? group 1 rest
      | [d, b, a] =>
        some [.ofNat (4 * a + b / 16), .ofNat (16 * (b % 16) + d / 4)]
      | _ => octetsOf? group signs rest
    else
      match sextet? c, group with
      | none, _ => octetsOf? group signs rest
      | some d, [c, b, a] =>
        (octetsOf? [] 0 rest).map fun others =>
          .ofNat (4 * a + b / 16) :: .ofNat (16 * (b % 16) + c / 4) :: .ofNat (64 * (c % 4) + d)
            :: others
      | some d, _ => octetsOf? (d :: group) 0 rest

def bytesOf? (t : Text) : Option (List UInt8) := do
  let cs ← t.chars?
  if cs.all Text.isAscii then octetsOf? [] 0 cs else none

end BondingPool.Yaml
