import BondingPool.Text.Quoted
import BondingPool.Binary64
import BondingPool.Calendar

/-!
# Loose values

What a decoded document or a caller hands over before anything is known about it. A truth value
is not an integer here: whatever asks for an integer refuses it.

Two keys of a mapping are the same when they are equal as values: truth values count as zero and
one, numbers of both kinds compare by their exact value, and moments by their instant. A mapping
built from entries keeps the first place and the last value of each key. Keys are ordered where
both are numbers, both texts, both byte strings, both tuples, both dates or both moments of one
kind; other pairs of keys cannot be compared.
-/

namespace BondingPool

inductive Value
  | null
  | bool (b : Bool)
  | int (n : Int)
  | float (x : Binary64)
  | date (d : Date)
  | moment (m : Moment)
  | text (t : Text)
  | bytes (b : List UInt8)
  | list (items : List Value)
  | tuple (items : List Value)
  | dict (entries : List (Value × Value))

namespace Value

def kind : Value → String
  | .null => "NoneType"
  | .bool _ => "bool"
  | .int _ => "int"
  | .float _ => "float"
  | .date _ => "date"
  | .moment _ => "datetime"
  | .text _ => "str"
  | .bytes _ => "bytes"
  | .list _ => "list"
  | .tuple _ => "tuple"
  | .dict _ => "dict"

def int? : Value → Option Int
  | .int n => some n
  | _ => none

/-- The integer that a value counts as in a sum. -/
def summand? : Value → Option Int
  | .int n => some n
  | .bool b => some (if b then 1 else 0)
  | _ => none

def text? : Value → Option Text
  | .text t => some t
  | _ => none

def dict? : Value → Option (List (Value × Value))
  | .dict entries => some entries
  | _ => none

theorem int?_eq_some_iff {v : Value} {n : Int} : v.int? = some n ↔ v = .int n := by
  cases v <;> simp [int?]

theorem text?_eq_some_iff {v : Value} {t : Text} : v.text? = some t ↔ v = .text t := by
  cases v <;> simp [text?]

theorem dict?_eq_some_iff {v : Value} {entries : List (Value × Value)} :
    v.dict? = some entries ↔ v = .dict entries := by
  cases v <;> simp [dict?]

def field? (entries : List (Value × Value)) (key : String) : Option Value :=
  (entries.find? fun (k, _) => k.text? == some (Text.ofString key)).map (·.2)

def commas : List String → String
  | [] => ""
  | [item] => item
  | item :: rest => item ++ ", " ++ commas rest

mutual

def shown : Value → String
  | .null => "None"
  | .bool true => "True"
  | .bool false => "False"
  | .int n => toString n
  | .float x => x.text
  | .date d => d.text
  | .moment m => m.text
  | .text t => t.quoted
  | .bytes b => Text.quotedBytes b
  | .list items => "[" ++ commas (shownItems items) ++ "]"
  | .tuple [item] => "(" ++ shown item ++ ",)"
  | .tuple items => "(" ++ commas (shownItems items) ++ ")"
  | .dict entries => "\x7b" ++ commas (shownEntries entries) ++ "\x7d"

def shownItems : List Value → List String
  | [] => []
  | item :: rest => shown item :: shownItems rest

def shownEntries : List (Value × Value) → List String
  | [] => []
  | (key, value) :: rest => (shown key ++ ": " ++ shown value) :: shownEntries rest

end

def label : Value → Text
  | .text t => t
  | v => Text.ofString v.shown

/-! ### Keys -/

inductive Number
  | below
  | finite (q : Rat)
  | above
  | unordered

def number? : Value → Option Number
  | .bool b => some (.finite (if b then 1 else 0))
  | .int n => some (.finite n)
  | .float x => match x.read with
    | .notANumber => some .unordered
    | .infinite negative => some (if negative then .below else .above)
    | reading => some ((reading.value?.map Number.finite).getD .unordered)
  | _ => none

def Number.same : Number → Number → Bool
  | .finite p, .finite q => p == q
  | .below, .below => true
  | .above, .above => true
  | _, _ => false

def Number.before : Number → Number → Bool
  | .finite p, .finite q => p < q
  | .below, .finite _ => true
  | .below, .above => true
  | .finite _, .above => true
  | _, _ => false

mutual

def same : Value → Value → Bool
  | .null, .null => true
  | .text s, .text t => s == t
  | .bytes a, .bytes b => a == b
  | .date d, .date e => d == e
  | .moment m, .moment n => m.same n
  | .list xs, .list ys => sameItems xs ys
  | .tuple xs, .tuple ys => sameItems xs ys
  | v, w => match v.number?, w.number? with
    | some m, some n => m.same n
    | _, _ => false

def sameItems : List Value → List Value → Bool
  | [], [] => true
  | x :: xs, y :: ys => same x y && sameItems xs ys
  | _, _ => false

end

def enter {α β : Type} (same : α → α → Bool) (entries : List (α × β)) (key : α) (value : β) :
    List (α × β) :=
  match entries with
  | [] => [(key, value)]
  | (k, v) :: rest =>
    if same k key then (k, value) :: rest else (k, v) :: enter same rest key value

def distinct {α β : Type} (same : α → α → Bool) (entries : List (α × β)) : List (α × β) :=
  entries.foldl (fun known (key, value) => enter same known key value) []

def dictOf (entries : List (Value × Value)) : Value := .dict (distinct same entries)

mutual

def before? : Value → Value → Option Bool
  | .text s, .text t => some (s < t)
  | .bytes a, .bytes b => some (a < b)
  | .date d, .date e => some (d.number < e.number)
  | .moment m, .moment n => m.before? n
  | .tuple xs, .tuple ys => beforeItems? xs ys
  | v, w => match v.number?, w.number? with
    | some m, some n => some (m.before n)
    | _, _ => none

def beforeItems? : List Value → List Value → Option Bool
  | _, [] => some false
  | [], _ :: _ => some true
  | x :: xs, y :: ys => if same x y then beforeItems? xs ys else before? x y

end

def insertSorted? (v : Value) : List Value → Option (List Value)
  | [] => some [v]
  | w :: rest => do
    if ← w.before? v then return w :: (← insertSorted? v rest) else return v :: w :: rest

/-- The values in ascending order, or nothing when two neighbours cannot be compared. -/
def sort? : List Value → Option (List Value)
  | [] => some []
  | v :: rest => do insertSorted? v (← sort? rest)

end Value

end BondingPool
