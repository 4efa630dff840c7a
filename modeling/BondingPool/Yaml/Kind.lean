import BondingPool.Calendar
import BondingPool.Yaml.Property
import BondingPool.Text.Basic

/-!
# Kinds of nodes

A node is of the kind that its tag names. Without a tag, a list and a mapping are what they are, a
quoted or block scalar is a text, and the kind of a plain scalar goes by its spelling in YAML 1.1:
nothing, a truth value, an integer to base two, eight, ten, sixteen or sixty, a floating-point
number with a point, a date or moment, a mark of a merge or of a default value, or else a text. One
line feed may follow a spelling, which only a scalar that is plain by its tag can have.

A date is four digits of a year and one or two each of a month and a day. A moment has a time after
it, behind a letter T or blanks, perhaps with a fraction of a second, of which six places count, and
perhaps with an offset from universal time. A date alone is taken for one, where nothing says that
it is, only if both its month and its day have two digits.
-/

namespace BondingPool.Yaml

/-! ### Dates and moments -/

def exactly? (places : Nat) (cs : List Char) : Option (Nat × List Char) :=
  let digits := cs.take places
  if digits.length = places ∧ digits.all Char.isDigit then
    some (Text.decimalValue digits, cs.drop places)
  else none

def oneOrTwo? (cs : List Char) : Option (Nat × List Char) :=
  match exactly? 2 cs with
  | some found => some found
  | none => exactly? 1 cs

def after? (mark : Char) : List Char → Option (List Char)
  | c :: rest => if c = mark then some rest else none
  | [] => none

def isBlankChar (c : Char) : Bool := c == ' ' || c == '\t'

def timeStart? : List Char → Option (List Char)
  | 'T' :: rest => some rest
  | 't' :: rest => some rest
  | c :: rest => if isBlankChar c then some (rest.dropWhile isBlankChar) else none
  | [] => none

def microseconds (fraction : List Char) : Nat :=
  Text.decimalValue ((fraction ++ List.replicate 6 '0').take 6)

def fraction : List Char → Nat × List Char
  | '.' :: rest => (microseconds (rest.takeWhile Char.isDigit), rest.dropWhile Char.isDigit)
  | rest => (0, rest)

def signOf? : List Char → Option (Int × List Char)
  | '+' :: rest => some (1, rest)
  | '-' :: rest => some (-1, rest)
  | _ => none

def offset? (cs : List Char) : Option (Option Int) :=
  match cs.dropWhile isBlankChar with
  | ['Z'] => some (some 0)
  | rest =>
    match signOf? rest with
    | none => if cs.isEmpty then some none else none
    | some (sign, rest) => do
      let (hours, rest) ← oneOrTwo? rest
      let (minutes, rest) ← match rest with
        | ':' :: rest => exactly? 2 rest
        | rest => some (0, rest)
      if rest.isEmpty then return some (sign * (60 * hours + minutes)) else none

def day? (cs : List Char) : Option (Nat × Nat × Nat × List Char) := do
  let (year, rest) ← exactly? 4 cs
  let (month, rest) ← oneOrTwo? (← after? '-' rest)
  let (day, rest) ← oneOrTwo? (← after? '-' rest)
  return (year, month, day, rest)

def dateOf? (cs : List Char) : Option (Except CalendarFault Date) := do
  let (year, month, day, rest) ← day? cs
  if rest.isEmpty then return Date.ofNumbers year month day else none

def momentOf? (cs : List Char) : Option (Except CalendarFault Moment) := do
  let (year, month, day, rest) ← day? cs
  let (hour, rest) ← oneOrTwo? (← timeStart? rest)
  let (minute, rest) ← exactly? 2 (← after? ':' rest)
  let (second, rest) ← exactly? 2 (← after? ':' rest)
  let (part, rest) := fraction rest
  let offset ← offset? rest
  return Moment.ofNumbers year month day hour minute second part offset

def fullDateLength : Nat := 10

def isTimestamp (cs : List Char) : Bool :=
  (momentOf? cs).isSome || (cs.length == fullDateLength && (dateOf? cs).isSome)

/-! ### Spellings and tags -/

inductive Kind
  | null
  | bool
  | int
  | float
  | timestamp
  | binary
  | text
  | merge
  | default
  | list
  | map
  | set
  | pairs
  | unknown
  deriving DecidableEq, Repr

def nullWords : List String := ["~", "null", "Null", "NULL", ""]

def truthWords : List String :=
  ["yes", "Yes", "YES", "no", "No", "NO", "true", "True", "TRUE", "false", "False", "FALSE",
   "on", "On", "ON", "off", "Off", "OFF"]

def infinityWords : List String := [".inf", ".Inf", ".INF"]

def notANumberWords : List String := [".nan", ".NaN", ".NAN"]

def propertyMarks : List String := ["!", "&", "*"]

def isBinary (c : Char) : Bool := c == '0' || c == '1'

def isOctal (c : Char) : Bool := '0' ≤ c && c ≤ '7'

def isPlace (c : Char) : Bool := c.isDigit || c == '_'

def isRun (digit : Char → Bool) (cs : List Char) : Bool :=
  !cs.isEmpty && cs.all fun c => digit c || c == '_'

def isNumber (cs : List Char) : Bool := cs.head?.any Char.isDigit && cs.all isPlace

def afterSign : List Char → List Char
  | '-' :: rest => rest
  | '+' :: rest => rest
  | rest => rest

def isSixtieth : List Char → Bool
  | [c] => c.isDigit
  | [c, d] => '0' ≤ c && c ≤ '5' && d.isDigit
  | _ => false

def isNatural : List Char → Bool
  | '0' :: 'b' :: rest => isRun isBinary rest
  | '0' :: 'x' :: rest => isRun isHex rest
  | '0' :: rest => rest.all fun c => isOctal c || c == '_'
  | cs =>
    match Text.split ':' cs with
    | first :: others => isNumber first && others.all isSixtieth
    | [] => false

def isInteger (cs : List Char) : Bool := isNatural (afterSign cs)

def isPower : List Char → Bool
  | [] => true
  | e :: sign :: digits =>
    (e == 'e' || e == 'E') && (sign == '+' || sign == '-') && !digits.isEmpty
      && digits.all Char.isDigit
  | _ => false

def isPointed (signed : Bool) (cs : List Char) : Bool :=
  match cs.dropWhile isPlace with
  | '.' :: rest =>
    let starts := match cs with
      | '.' :: c :: _ => !signed && c.isDigit
      | c :: _ => c.isDigit
      | [] => false
    starts && isPower (rest.dropWhile isPlace)
  | _ => false

def isPointedSixtieth (cs : List Char) : Bool :=
  match (Text.split ':' cs).reverse with
  | last :: middle :: others =>
    match last.dropWhile isPlace, (middle :: others).reverse with
    | '.' :: rest, first :: places =>
      isNumber first && places.all isSixtieth && isSixtieth (last.takeWhile isPlace)
        && rest.all isPlace
    | _, _ => false
  | _ => false

def isFloat (cs : List Char) : Bool :=
  let rest := afterSign cs
  infinityWords.contains (String.ofList rest) || notANumberWords.contains (String.ofList cs)
    || isPointed (rest.length < cs.length) rest || isPointedSixtieth rest

def withoutFinalBreak (cs : List Char) : List Char :=
  if 1 < cs.length && cs.getLast? == some '\n' then cs.dropLast else cs

namespace Kind

def ofSpelling (cs : List Char) : Kind :=
  let cs := withoutFinalBreak cs
  let word := String.ofList cs
  if nullWords.contains word then .null
  else if truthWords.contains word then .bool
  else if isFloat cs then .float
  else if isInteger cs then .int
  else if isTimestamp cs then .timestamp
  else if word = "<<" then .merge
  else if word = "=" then .default
  else if propertyMarks.contains word then .unknown
  else .text

def ofSuffix : String → Kind
  | "null" => .null
  | "bool" => .bool
  | "int" => .int
  | "float" => .float
  | "timestamp" => .timestamp
  | "binary" => .binary
  | "str" => .text
  | "merge" => .merge
  | "value" => .default
  | "seq" => .list
  | "map" => .map
  | "set" => .set
  | "omap" => .pairs
  | "pairs" => .pairs
  | _ => .unknown

/-- The kind that a tag names, if it is not left to the content. -/
def ofTag? (tag : Option Name) : Option Kind :=
  match tag with
  | none => none
  | some tag =>
    if tag = ['!'] then none
    else if standardStem.isPrefixOf tag then
      some (ofSuffix (String.ofList (tag.drop standardStem.length)))
    else some .unknown

def ofScalar (tag : Option Name) (plain : Bool) (t : Text) : Kind :=
  (ofTag? tag).getD (if plain then (t.chars?.map ofSpelling).getD .text else .text)

def isCollection : Kind → Bool
  | .list => true
  | .map => true
  | .set => true
  | .pairs => true
  | _ => false

end Kind

end BondingPool.Yaml
