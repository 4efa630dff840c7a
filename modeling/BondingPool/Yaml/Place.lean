import BondingPool.Text.Basic
import BondingPool.Calendar
import BondingPool.Text.Quoted

/-!
# Places in a YAML text

A place is what is left of a text, together with the number of the characters before it, of its
line and of its column. A byte order mark takes up no column.

A text is malformed when it is no document, or no document of known parts. A scalar that is to be
read as a number, a truth value or a moment may still be no such thing, and a character may be
named by a number that no character has; such a fault has a cause of its own.
-/

namespace BondingPool.Yaml

def byteOrderMark : Char := '\ufeff'

def isBreak (c : Char) : Bool :=
  c == '\n' || c.toNat == 0x85 || c.toNat == 0x2028 || c.toNat == 0x2029

def isSpace (c : Char) : Bool := c == ' '

def isSpaceOrTab (c : Char) : Bool := c == ' ' || c == '\t'

def endsWord : List Char → Bool
  | [] => true
  | c :: _ => isSpaceOrTab c || isBreak c

def endsLine : List Char → Bool
  | [] => true
  | c :: _ => isBreak c

def endsField : List Char → Bool
  | [] => true
  | c :: _ => isSpace c || isBreak c

def isMark (mark : Char) : List Char → Bool
  | a :: b :: c :: rest => a == mark && b == mark && c == mark && endsWord rest
  | _ => false

def isAnyMark (cs : List Char) : Bool := isMark '-' cs || isMark '.' cs

structure Place where
  rest : List Char
  index : Nat
  line : Nat
  column : Nat

namespace Place

def start (text : List Char) : Place := ⟨text, 0, 0, 0⟩

def past (p : Place) (c : Char) (rest : List Char) : Place :=
  if isBreak c then ⟨rest, p.index + 1, p.line + 1, 0⟩
  else ⟨rest, p.index + 1, p.line, if c = byteOrderMark then p.column else p.column + 1⟩

def take : Nat → Place → List Char × Place
  | 0, p => ([], p)
  | n + 1, p =>
    match p.rest with
    | [] => ([], p)
    | c :: rest =>
      let (taken, after) := take n (p.past c rest)
      (c :: taken, after)

def skip (n : Nat) (p : Place) : Place := (p.take n).2

def next (p : Place) : Place := p.skip 1

def span (keep : Char → Bool) (p : Place) : List Char × Place :=
  p.take (p.rest.takeWhile keep).length

def skipWhile (keep : Char → Bool) (p : Place) : Place := (p.span keep).2

def isAtEnd (p : Place) : Bool := p.rest.isEmpty

def lineBreak? (p : Place) : Option (Char × Place) :=
  match p.rest with
  | [] => none
  | c :: rest =>
    if isBreak c then some (if c.toNat = 0x85 then '\n' else c, p.past c rest) else none

def skipComment (p : Place) : Place :=
  let p := p.skipWhile isSpace
  match p.rest with
  | '#' :: _ => p.skipWhile (!isBreak ·)
  | _ => p

end Place

/-! ### Faults -/

/-- Why a scalar has no value: the text is no number to its base or no decimal number, a place of a
number to base sixty is beyond all floating-point numbers, a day is in no calendar, a number
names no character or is beyond every word, a number is spelled by nothing, a word is no truth
value, a text is no moment, or a moment is to be read from entries. -/
inductive ScalarFault
  | noInteger (base : Nat) (text : Text)
  | noFloat (text : Text)
  | tooLarge
  | calendar (cause : CalendarFault)
  | noCodePoint
  | noWord
  | noDigits
  | noTruth (word : Text)
  | noMoment
  | entriesForMoment
  deriving DecidableEq, Repr

inductive Fault
  | malformed
  | scalar (cause : ScalarFault)
  deriving DecidableEq, Repr

def shownLength : Nat := 200

def ScalarFault.message : ScalarFault → String
  | .noInteger base text =>
    s!"invalid literal for int() with base {base}: "
      ++ String.ofList (text.quoted.toList.take shownLength)
  | .noFloat text => "could not convert string to float: " ++ text.quoted
  | .tooLarge => "int too large to convert to float"
  | .calendar cause => cause.message
  | .noCodePoint => "chr() arg not in range(0x110000)"
  | .noWord => "Python int too large to convert to C int"
  | .noDigits => "string index out of range"
  | .noTruth word => word.quoted
  | .noMoment => "'NoneType' object has no attribute 'groupdict'"
  | .entriesForMoment => "expected string or bytes-like object, got 'list'"

def orMalformed {α : Type} (answer : Option α) : Except Fault α :=
  match answer with
  | some a => .ok a
  | none => .error .malformed

end BondingPool.Yaml
