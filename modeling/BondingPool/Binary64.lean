import BondingPool.Text.Numeral

/-!
# Binary floating-point numbers

A loose value may be a 64-bit floating-point number. It is kept by its bits, so that two of
them are compared exactly, and read as a sign, a mantissa and a power of two, an infinity or no
number at all.

A numeral for such a number is an optional sign and a word for infinity or for no number, in
letters of either case, or digits of any script with or without a point among, before or behind
them, and perhaps a power of ten behind the letter e. Blanks may stand around the whole.

A finite number is written with the fewest decimal digits that read back as the same number and,
among those, the nearest. Digits stand in positional notation while the point falls between the
fourth place after it and the sixteenth before it, and with a power of ten otherwise; a whole
number in positional notation keeps one zero after the point.
-/

namespace BondingPool

structure Binary64 where
  bits : UInt64
  deriving DecidableEq, Repr

namespace Binary64

inductive Reading
  | finite (negative : Bool) (mantissa : Nat) (exponent : Int)
  | infinite (negative : Bool)
  | notANumber
  deriving DecidableEq, Repr

def read (x : Binary64) : Reading :=
  let n := x.bits.toNat
  let negative := n >>> 63 == 1
  let biased : Nat := (n >>> 52) % 0x800
  let fraction := n % 0x10000000000000
  if biased = 2047 then
    if fraction = 0 then .infinite negative else .notANumber
  else if biased = 0 then .finite negative fraction (-1074)
  else .finite negative (fraction + 0x10000000000000) ((biased : Int) - 1075)

def infinity (negative : Bool) : Binary64 :=
  ⟨if negative then 0xFFF0000000000000 else 0x7FF0000000000000⟩

def notANumber : Binary64 := ⟨0x7FF8000000000000⟩

def ofDecimal (negative : Bool) (mantissa : Nat) (exponent : Int) : Binary64 :=
  let x := Float.ofScientific mantissa (exponent < 0) exponent.natAbs
  ⟨(if negative then -x else x).toBits⟩

def ofFloat (x : Float) : Binary64 := ⟨x.toBits⟩

def toFloat (x : Binary64) : Float := .ofBits x.bits

def ofNat (n : Nat) : Binary64 := ofDecimal false n 0

def negate (x : Binary64) : Binary64 := ofFloat (-x.toFloat)

def add (x y : Binary64) : Binary64 := ofFloat (x.toFloat + y.toFloat)

def mul (x y : Binary64) : Binary64 := ofFloat (x.toFloat * y.toFloat)

def Reading.value? : Reading → Option Rat
  | .finite negative mantissa exponent =>
    let magnitude : Rat := mantissa * (2 : Rat) ^ exponent
    some (if negative then -magnitude else magnitude)
  | _ => none

/-! ### Numerals -/

def plainDigit (c : Char) : Char :=
  match Text.digit? c with
  | some n => Nat.digitChar n
  | none => c

def splitSign : List Char → Bool × List Char
  | '-' :: rest => (true, rest)
  | '+' :: rest => (false, rest)
  | rest => (false, rest)

def powerOf? : List Char → Option Int
  | [] => some 0
  | e :: rest =>
    let (negative, digits) := splitSign rest
    if (e == 'e' || e == 'E') && !digits.isEmpty && digits.all Char.isDigit then
      some (if negative then -(Text.decimalValue digits : Int) else Text.decimalValue digits)
    else none

def fractionOf : List Char → List Char × List Char
  | '.' :: rest => (rest.takeWhile Char.isDigit, rest.dropWhile Char.isDigit)
  | rest => ([], rest)

def ofDigits? (negative : Bool) (cs : List Char) : Option Binary64 := do
  let whole := cs.takeWhile Char.isDigit
  let (fraction, rest) := fractionOf (cs.dropWhile Char.isDigit)
  let power ← powerOf? rest
  if whole.isEmpty && fraction.isEmpty then none
  else return .ofDecimal negative (Text.decimalValue (whole ++ fraction)) (power - fraction.length)

def ofWord? (negative : Bool) (cs : List Char) : Option Binary64 :=
  let word := String.ofList (cs.map Char.toLower)
  if word = "inf" ∨ word = "infinity" then some (infinity negative)
  else if word = "nan" then some notANumber
  else none

def ofNumeral? (cs : List Char) : Option Binary64 :=
  let (negative, rest) := splitSign ((Text.trim Text.isNumeralBlank cs).map plainDigit)
  match ofWord? negative rest with
  | some x => some x
  | none => ofDigits? negative rest

/-! ### Shortest decimal text -/

def digitCount (n : Nat) : Nat := (Nat.toDigits 10 n).length

def decimalExponent (num den : Nat) : Int :=
  if den ≤ num then (digitCount (num / den) : Int) - 1 else -(digitCount ((den - 1) / num) : Int)

/-- A positive number `mantissa * 2 ^ exponent` with the interval that reads back as it, in
quarters of its last place: `4 * mantissa - below` to `4 * mantissa + 2`, ends included for even
mantissas. -/
structure Target where
  mantissa : Nat
  exponent : Int
  below : Nat

def Target.of (mantissa : Nat) (exponent : Int) : Target :=
  ⟨mantissa, exponent, if mantissa = 0x10000000000000 ∧ -1074 < exponent then 1 else 2⟩

def Target.quarters (t : Target) (k : Int) (n : Nat) : Nat :=
  n <<< (t.exponent - 2).toNat * Nat.pow 10 (-k).toNat

def Target.steps (t : Target) (k : Int) (n : Nat) : Nat :=
  n <<< (2 - t.exponent).toNat * Nat.pow 10 k.toNat

def Target.readsBack (t : Target) (k : Int) (n : Nat) : Bool :=
  let lo := t.quarters k (4 * t.mantissa - t.below)
  let hi := t.quarters k (4 * t.mantissa + 2)
  let here := t.steps k n
  if t.mantissa % 2 = 0 then lo ≤ here && here ≤ hi else lo < here && here < hi

/-- The grid point next to the number that reads back as it, the nearer of two. -/
def Target.onGrid? (t : Target) (k : Int) : Option Nat :=
  let exact := t.quarters k (4 * t.mantissa)
  let low := exact / t.steps k 1
  let lowGap := exact - t.steps k low
  let highGap := t.steps k (low + 1) - exact
  match t.readsBack k low, t.readsBack k (low + 1) with
  | true, true =>
    some (if lowGap < highGap ∨ (lowGap = highGap ∧ low % 2 = 0) then low else low + 1)
  | true, false => some low
  | false, true => some (low + 1)
  | false, false => none

/-- Digits `d₁d₂…` read as `0.d₁d₂… * 10 ^ point`. -/
structure Decimal where
  digits : List Char
  point : Int

def Decimal.ofGrid (n : Nat) (k : Int) : Decimal :=
  let digits := Nat.toDigits 10 n
  ⟨(digits.reverse.dropWhile (· == '0')).reverse, digits.length + k⟩

def Target.shortest (t : Target) : Decimal :=
  let lead := decimalExponent (t.quarters 0 (4 * t.mantissa)) (t.steps 0 1)
  let found := (List.range 17).findSome? fun (places : Nat) =>
    let k := lead - places
    (t.onGrid? k).map fun n => Decimal.ofGrid n k
  found.getD ⟨[], 0⟩

def Decimal.positional (d : Decimal) : List Char :=
  let count := d.digits.length
  if d.point ≤ 0 then '0' :: '.' :: List.replicate (-d.point).toNat '0' ++ d.digits
  else if count ≤ d.point.toNat then
    d.digits ++ List.replicate (d.point.toNat - count) '0' ++ ['.', '0']
  else d.digits.take d.point.toNat ++ '.' :: d.digits.drop d.point.toNat

def Decimal.withPower (d : Decimal) : List Char :=
  let power := d.point - 1
  let digits := Nat.toDigits 10 power.natAbs
  let lead := match d.digits with
    | [] => []
    | [first] => [first]
    | first :: rest => first :: '.' :: rest
  lead ++ 'e' :: (if power < 0 then '-' else '+') ::
    List.replicate (2 - digits.length) '0' ++ digits

def Decimal.text (d : Decimal) : List Char :=
  if -4 < d.point ∧ d.point ≤ 16 then d.positional else d.withPower

def text (x : Binary64) : String :=
  match x.read with
  | .notANumber => "nan"
  | .infinite negative => if negative then "-inf" else "inf"
  | .finite negative mantissa exponent =>
    let magnitude :=
      if mantissa = 0 then ['0', '.', '0'] else (Target.of mantissa exponent).shortest.text
    String.ofList (if negative then '-' :: magnitude else magnitude)

end Binary64

end BondingPool
