import BondingPool.Text.Numeral
import BondingPool.Rejection

/-!
# Command line options

Every option is a flag with a value, apart from three that stand alone. A flag may be shortened
while one flag alone begins so, its value may follow an equals sign, and of a repeated flag the
last one counts. Two dashes alone behind the equals sign leave the flag without a value, which is
found out only where the value is used. The flag for help has a short name of one letter as well,
which may be repeated. Any other argument that begins with a dash is a value only when it is a
negative number or holds a space.

An argument that several flags begin with is refused wherever it stands. Apart from that the
arguments are read from the left up to a request for help, and a value that is missing, out of
place or no integer is refused where it is met. There are no other arguments, and the curve has
to be named.
-/

namespace BondingPool.Quote

/-- What a flag is given. -/
inductive Given (α : Type)
  | value (a : α)
  | nothing
  deriving DecidableEq, Repr

inductive Blank
  | path
  | curve
  | direction
  | amount (role : AmountRole)
  deriving DecidableEq, Repr

def Blank.message : Blank → String
  | .path => "expected str, bytes or os.PathLike object, not list"
  | .curve => "unhashable type: 'list'"
  | .direction => "'list' object has no attribute 'strip'"
  | .amount role => role.key ++ " must be an int"

structure Options where
  config : Option (Given String)
  curve : Given String
  collateral : Option (Given Int)
  bonded : Option (Given Int)
  direction : Given String
  amount : Option (Given Int)
  floor : Given Int
  replay : Bool
  verbose : Bool
  deriving DecidableEq, Repr

inductive Request
  | quote (options : Options)
  | help
  | refused
  deriving DecidableEq, Repr

inductive Flag
  | help
  | config
  | curve
  | collateral
  | bonded
  | direction
  | amount
  | floor
  | replay
  | verbose
  deriving DecidableEq, Repr

namespace Flag

def name : Flag → String
  | .help => "--help"
  | .config => "--config"
  | .curve => "--curve"
  | .collateral => "--collateral"
  | .bonded => "--bonded"
  | .direction => "--direction"
  | .amount => "--amount"
  | .floor => "--min-out"
  | .replay => "--replay"
  | .verbose => "--verbose"

def all : List Flag :=
  [.help, .config, .curve, .collateral, .bonded, .direction, .amount, .floor, .replay, .verbose]

/-- The flags that a name may stand for: the one it is the whole name of, or else all those whose
name begins so. -/
def ofName (cs : List Char) : List Flag :=
  match all.find? (·.name.toList == cs) with
  | some flag => [flag]
  | none => all.filter fun flag => cs.isPrefixOf flag.name.toList

end Flag

inductive Argument
  | word (cs : List Char)
  | flag (flag : Flag) (attached : Option (List Char))
  | unknown
  deriving DecidableEq, Repr

def isDigits (cs : List Char) : Bool := !cs.isEmpty && cs.all fun c => (Text.digit? c).isSome

def isNegativeNumber : List Char → Bool
  | '-' :: rest =>
    let rest := if rest.getLast? = some '\n' then rest.dropLast else rest
    match Text.split '.' rest with
    | [whole] => isDigits whole
    | [whole, fraction] => (whole.isEmpty || isDigits whole) && isDigits fraction
    | _ => false
  | _ => false

namespace Argument

def attached? (cs : List Char) : Option (List Char) :=
  if cs.contains '=' then some ((cs.dropWhile (· != '=')).drop 1) else none

/-- What stands behind the short name of the flag for help, perhaps after an equals sign. Repetitions
of the name ask for help, and anything else is a value, which the flag does not take. -/
def shortHelp (rest : List Char) : Argument :=
  let repeated := match rest with
    | '=' :: c :: others => c :: others
    | others => others
  .flag .help (if repeated.all (· == 'h') then none else some rest)

def dashed (cs : List Char) : Argument :=
  if isNegativeNumber cs || cs.contains ' ' then .word cs else .unknown

def ofChars? (cs : List Char) : Option Argument :=
  match cs with
  | '-' :: '-' :: _ =>
    match Flag.ofName (cs.takeWhile (· != '=')) with
    | [] => some (dashed cs)
    | [known] => some (.flag known (attached? cs))
    | _ => none
  | '-' :: 'h' :: rest => some (shortHelp rest)
  | '-' :: _ :: _ => some (dashed cs)
  | _ => some (.word cs)

def ofAll? : List (List Char) → Option (List Argument)
  | [] => some []
  | cs :: rest =>
    -- behind two dashes that stand alone no argument is a flag
    if cs = ['-', '-'] then some (.unknown :: rest.map word)
    else do
      let first ← ofChars? cs
      let others ← ofAll? rest
      return first :: others

end Argument

/-- The options read so far, and whether there was an argument that is none; the curve is still to
be named. -/
structure Draft where
  config : Option (Given String)
  curve : Option (Given String)
  collateral : Option (Given Int)
  bonded : Option (Given Int)
  direction : Given String
  amount : Option (Given Int)
  floor : Given Int
  replay : Bool
  verbose : Bool
  surplus : Bool

namespace Draft

def start : Draft :=
  ⟨none, none, none, none, .value "a_to_b", none, .value 0, false, false, false⟩

def textOf (cs : List Char) : Given String :=
  if cs = ['-', '-'] then .nothing else .value (String.ofList cs)

def integerOf? (cs : List Char) : Option (Given Int) :=
  if cs = ['-', '-'] then some .nothing else (Text.integer? cs).map .value

def withValue (d : Draft) (flag : Flag) (cs : List Char) : Option Draft :=
  match flag with
  | .config => some { d with config := some (textOf cs) }
  | .curve => some { d with curve := some (textOf cs) }
  | .direction => some { d with direction := textOf cs }
  | .collateral => (integerOf? cs).map fun n => { d with collateral := some n }
  | .bonded => (integerOf? cs).map fun n => { d with bonded := some n }
  | .amount => (integerOf? cs).map fun n => { d with amount := some n }
  | .floor => (integerOf? cs).map fun n => { d with floor := n }
  | .help => none
  | .replay => none
  | .verbose => none

def request (d : Draft) : Request :=
  match d.curve with
  | none => .refused
  | some curve =>
    if d.surplus then .refused
    else .quote ⟨d.config, curve, d.collateral, d.bonded, d.direction, d.amount, d.floor, d.replay,
      d.verbose⟩

def read (d : Draft) : List Argument → Request
  | [] => d.request
  | .word _ :: rest => read { d with surplus := true } rest
  | .unknown :: rest => read { d with surplus := true } rest
  | .flag .help none :: _ => .help
  | .flag .replay none :: rest => read { d with replay := true } rest
  | .flag .verbose none :: rest => read { d with verbose := true } rest
  | .flag flag (some cs) :: rest =>
    match d.withValue flag cs with
    | some d => read d rest
    | none => .refused
  | .flag flag none :: .word cs :: rest =>
    match d.withValue flag cs with
    | some d => read d rest
    | none => .refused
  | .flag _ none :: _ => .refused

end Draft

def Request.ofArguments (arguments : List String) : Request :=
  match Argument.ofAll? (arguments.map String.toList) with
  | some arguments => Draft.start.read arguments
  | none => .refused

end BondingPool.Quote
