import BondingPool.Text.Basic

/-!
# Integer numerals

A numeral is an optional sign and a run of decimal digits of any script; single underscores may
stand between digits, blanks around the whole. The four ASCII information separators, though
blank elsewhere, are not admitted there. A numeral to a base of at most thirty-six has perhaps a
zero and the letter of the base before its digits, which are decimal digits of any script and,
behind nine, Latin letters of either case; underscores are not admitted in it.

A numeral may be of any length: a limit that a platform sets on the number of digits is left out.
-/

namespace BondingPool.Text

/-! ### Digits in places -/

def digitPlaces (base : Nat) : Nat → Nat → List Char
  | 0, _ => []
  | places + 1, n => digitPlaces base places (n / base) ++ [Nat.digitChar (n % base)]

theorem length_digitPlaces (base places n : Nat) : (digitPlaces base places n).length = places := by
  induction places generalizing n with
  | zero => rfl
  | succ places ih => simp [digitPlaces, ih]

def decimalDigits : Nat → Nat → List Char := digitPlaces 10

def hexDigits : Nat → Nat → List Char := digitPlaces 16

def decimalValue (cs : List Char) : Nat := cs.foldl (fun n c => 10 * n + (c.toNat - 0x30)) 0

/-! ### Decimal numerals -/

/-- The zeros of the blocks of ten decimal digits (Unicode category Nd). -/
def zeroDigits : List Nat :=
  [0x30, 0x660, 0x6F0, 0x7C0, 0x966, 0x9E6, 0xA66, 0xAE6, 0xB66, 0xBE6, 0xC66, 0xCE6, 0xD66,
   0xDE6, 0xE50, 0xED0, 0xF20, 0x1040, 0x1090, 0x17E0, 0x1810, 0x1946, 0x19D0, 0x1A80, 0x1A90,
   0x1B50, 0x1BB0, 0x1C40, 0x1C50, 0xA620, 0xA8D0, 0xA900, 0xA9D0, 0xA9F0, 0xAA50, 0xABF0,
   0xFF10, 0x104A0, 0x10D30, 0x11066, 0x110F0, 0x11136, 0x111D0, 0x112F0, 0x11450, 0x114D0,
   0x11650, 0x116C0, 0x11730, 0x118E0, 0x11950, 0x11C50, 0x11D50, 0x11DA0, 0x16A60, 0x16AC0,
   0x16B50, 0x1D7CE, 0x1D7D8, 0x1D7E2, 0x1D7EC, 0x1D7F6, 0x1E140, 0x1E2F0, 0x1E950, 0x1FBF0]

def digit? (c : Char) : Option Nat :=
  (zeroDigits.find? fun start => start ≤ c.toNat && c.toNat < start + 10).map (c.toNat - ·)

def isNumeralBlank (c : Char) : Bool :=
  isBlank c && !(0x1C ≤ c.toNat && c.toNat ≤ 0x1F)

/-- The value of the digits that follow a digit, of which `value` is that of the digits so far. -/
def digitsAfter? (value : Nat) : List Char → Option Nat
  | [] => some value
  | '_' :: c :: rest => do digitsAfter? (10 * value + (← digit? c)) rest
  | c :: rest => do digitsAfter? (10 * value + (← digit? c)) rest

def natural? : List Char → Option Nat
  | [] => none
  | c :: rest => do digitsAfter? (← digit? c) rest

def signed? : List Char → Option Int
  | '+' :: rest => (natural? rest).map Int.ofNat
  | '-' :: rest => (natural? rest).map fun n => -(n : Int)
  | rest => (natural? rest).map Int.ofNat

def integer? (t : List Char) : Option Int :=
  signed? (trim isNumeralBlank t)

/-! ### Numerals to a base -/

def digitTo? (base : Nat) (c : Char) : Option Nat :=
  let value? :=
    if 'a' ≤ c && c ≤ 'z' then some (c.toNat - 0x57)
    else if 'A' ≤ c && c ≤ 'Z' then some (c.toNat - 0x37)
    else digit? c
  value?.filter (· < base)

def isBaseLetter (base : Nat) (c : Char) : Bool :=
  match base with
  | 2 => c == 'b' || c == 'B'
  | 8 => c == 'o' || c == 'O'
  | 16 => c == 'x' || c == 'X'
  | _ => false

def afterBase (base : Nat) : List Char → List Char
  | zero :: letter :: rest =>
    if digit? zero = some 0 && isBaseLetter base letter then rest else zero :: letter :: rest
  | rest => rest

def digitsTo? (base value : Nat) : List Char → Option Nat
  | [] => some value
  | c :: rest => do digitsTo? base (base * value + (← digitTo? base c)) rest

def naturalTo? (base : Nat) (cs : List Char) : Option Nat :=
  match afterBase base cs with
  | [] => none
  | c :: rest => digitsTo? base 0 (c :: rest)

def signedTo? (base : Nat) : List Char → Option Int
  | '+' :: rest => (naturalTo? base rest).map Int.ofNat
  | '-' :: rest => (naturalTo? base rest).map fun n => -(n : Int)
  | rest => (naturalTo? base rest).map Int.ofNat

def integerTo? (base : Nat) (cs : List Char) : Option Int :=
  signedTo? base (trim isNumeralBlank cs)

end BondingPool.Text
