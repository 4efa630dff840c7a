import BondingPool.Text.Basic
import BondingPool.Text.Numeral
import BondingPool.Text.Quoted
import BondingPool.Rejection
import BondingPool.Json
import BondingPool.Pool

/-!
# Orders and records

A replay reads one order a line: a direction in letters of either case, a comma and an amount,
with blanks anywhere around the two. Blank lines and lines whose first mark is `#` are passed
over. Reading stops at the first line that is none of these; of a line with two faults the
amount's is reported.

The answer to an order is a record, one line of JSON with its keys in ascending order. A record of
a replay also carries the number of its line and the balances after it.
-/

namespace BondingPool.Quote

/-! ### Orders as text -/

structure Order where
  line : Nat
  direction : Direction
  amount : Int
  deriving DecidableEq, Repr

inductive OrderFault
  | shape (line : Nat) (text : List Char)
  | amount (line : Nat) (text : List Char)
  | direction (text : List Char)
  deriving DecidableEq, Repr

def shownChars (cs : List Char) : String := Text.quoted (Text.ofChars cs)

def OrderFault.message : OrderFault → String
  | .shape line text => s!"line {line}: expected 'direction,amount', got " ++ shownChars text
  | .amount line text => s!"line {line}: amount must be an int: " ++ shownChars text
  | .direction text => "unknown direction: " ++ shownChars text ++ " (expected a_to_b or b_to_a)"

def readDirection (cs : List Char) : Except OrderFault Direction :=
  -- beyond ASCII no letter has a small form among those of the two words
  match Direction.ofKey? (String.ofList ((Text.trim Text.isBlank cs).map Char.toLower)) with
  | some direction => .ok direction
  | none => .error (.direction cs)

def readOrder (number : Nat) (line : List Char) : Except OrderFault (Option Order) :=
  let text := Text.trim Text.isBlank line
  if text = [] ∨ text.head? = some '#' then .ok none
  else match (Text.split ',' text).map (Text.trim Text.isBlank) with
    | [word, numeral] =>
      match Text.integer? numeral with
      | some amount => (readDirection word).map fun direction => some ⟨number, direction, amount⟩
      | none => .error (.amount number numeral)
    | _ => .error (.shape number text)

/-- The orders on lines numbered from `number` on, up to the first fault. -/
def readOrders (number : Nat) : List (List Char) → List Order × Option OrderFault
  | [] => ([], none)
  | line :: rest =>
    match readOrder number line with
    | .error fault => ([], some fault)
    | .ok none => readOrders (number + 1) rest
    | .ok (some order) =>
      let (others, fault) := readOrders (number + 1) rest
      (order :: others, fault)

def ordersOf (input : List Char) : List Order × Option OrderFault :=
  readOrders 1 (Text.lines Char.toNat Text.isLineEnd input)

/-! ### Records -/

structure Standing where
  line : Nat
  collateral : Word
  bonded : Word
  deriving DecidableEq, Repr

structure Record where
  answer : Except Rejection Fill
  standing : Option Standing

namespace Record

def answerFields (answer : Except Rejection Fill) : List (String × Json) :=
  match answer with
  | .ok fill =>
    [("accepted", .bool true), ("direction", .string fill.direction.key),
     ("actual_amount_in", .int fill.paid), ("amount_out", .int fill.received),
     ("capped", .bool fill.capped)]
  | .error reason =>
    [("accepted", .bool false), ("code", .string reason.code),
     ("rejection", .string reason.message)]

def standingFields (s : Standing) : List (String × Json) :=
  [("line", .int s.line), ("collateral_balance", .int s.collateral.val),
   ("bonded_balance", .int s.bonded.val)]

def toJson (r : Record) : Json :=
  Json.object (answerFields r.answer ++ (r.standing.map standingFields).getD [])

def text (r : Record) : String := String.ofList (r.toJson.render .spaced)

end Record

end BondingPool.Quote
