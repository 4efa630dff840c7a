import BondingPool.Bytes
import BondingPool.Value

/-!
# JSON documents and canonical bytes

Documents of integers, truth values, texts, lists and mappings. Text escapes the quote, the
backslash and the controls below the space, five of them by a letter; everything else stands for
itself. The style says what separates items and what follows a key.

A value has canonical bytes when it holds no floating-point number, no byte string, no date and
no text with a surrogate, and when every key is a text. Mappings are written in the order of
their keys and tuples as lists, in the compact style and in UTF-8. A first scan in reading order
finds everything but byte strings and dates, which are found only when the document is made.

An integer may have any number of digits and a value any depth: the limits that a platform sets on
both are left out.
-/

namespace BondingPool

inductive Json
  | null
  | bool (b : Bool)
  | int (n : Int)
  | text (cs : List Char)
  | list (items : List Json)
  | map (entries : List (List Char × Json))

namespace Json

structure Style where
  comma : List Char
  colon : List Char

def Style.compact : Style := ⟨[','], [':']⟩

def Style.spaced : Style := ⟨[',', ' '], [':', ' ']⟩

def escape (c : Char) : List Char :=
  if c = '"' then ['\\', '"']
  else if c = '\\' then ['\\', '\\']
  else if 0x20 ≤ c.toNat then [c]
  else if c.toNat = 0x08 then ['\\', 'b']
  else if c.toNat = 0x0C then ['\\', 'f']
  else if c.toNat = 0x0A then ['\\', 'n']
  else if c.toNat = 0x0D then ['\\', 'r']
  else if c.toNat = 0x09 then ['\\', 't']
  else ['\\', 'u', '0', '0', Nat.digitChar (c.toNat / 16), Nat.digitChar (c.toNat % 16)]

def quote (cs : List Char) : List Char := '"' :: cs.flatMap escape ++ ['"']

def separated (comma : List Char) : List (List Char) → List Char
  | [] => []
  | [item] => item
  | item :: rest => item ++ comma ++ separated comma rest

mutual

def render (style : Style) : Json → List Char
  | .null => ['n', 'u', 'l', 'l']
  | .bool true => ['t', 'r', 'u', 'e']
  | .bool false => ['f', 'a', 'l', 's', 'e']
  | .int n => (toString n).toList
  | .text cs => quote cs
  | .list items => '[' :: separated style.comma (renderItems style items) ++ [']']
  | .map entries => '{' :: separated style.comma (renderEntries style entries) ++ ['}']

def renderItems (style : Style) : List Json → List (List Char)
  | [] => []
  | item :: rest => render style item :: renderItems style rest

def renderEntries (style : Style) : List (List Char × Json) → List (List Char)
  | [] => []
  | (key, value) :: rest =>
    (quote key ++ style.colon ++ render style value) :: renderEntries style rest

end

def insertByKey (entry : List Char × Json) : List (List Char × Json) → List (List Char × Json)
  | [] => [entry]
  | other :: rest =>
    if other.1 < entry.1 then other :: insertByKey entry rest else entry :: other :: rest

def sortByKey (entries : List (List Char × Json)) : List (List Char × Json) :=
  entries.foldr insertByKey []

def string (s : String) : Json := .text s.toList

def object (entries : List (String × Json)) : Json :=
  .map (sortByKey (entries.map fun (key, value) => (key.toList, value)))

/-! ### Canonical bytes of a value -/

inductive CanonicalFault
  | floatingPoint
  | surrogate
  | keyNotText
  | unwritable (kind : String)
  deriving DecidableEq, Repr

def CanonicalFault.message : CanonicalFault → String
  | .floatingPoint => "floats are not allowed in canonical encoding"
  | .surrogate => "surrogate code points are not allowed in canonical encoding"
  | .keyNotText => "dict keys must be str for canonical encoding"
  | .unwritable kind => "Object of type " ++ kind ++ " is not JSON serializable"

def scanText (t : Text) : Except CanonicalFault Unit :=
  if t.any (·.isSurrogate) then .error .surrogate else .ok ()

mutual

def scan : Value → Except CanonicalFault Unit
  | .float _ => .error .floatingPoint
  | .text t => scanText t
  | .dict entries => scanEntries entries
  | .list items => scanItems items
  | .tuple items => scanItems items
  | .null => .ok ()
  | .bool _ => .ok ()
  | .int _ => .ok ()
  | .bytes _ => .ok ()
  | .date _ => .ok ()
  | .moment _ => .ok ()

def scanItems : List Value → Except CanonicalFault Unit
  | [] => .ok ()
  | item :: rest => do
    scan item
    scanItems rest

def scanEntries : List (Value × Value) → Except CanonicalFault Unit
  | [] => .ok ()
  | (.text key, value) :: rest => do
    scanText key
    scan value
    scanEntries rest
  | _ :: _ => .error .keyNotText

end

def charsOf (t : Text) : Except CanonicalFault (List Char) :=
  match t.chars? with
  | some cs => .ok cs
  | none => .error .surrogate

mutual

def ofValue : Value → Except CanonicalFault Json
  | .null => .ok .null
  | .bool b => .ok (.bool b)
  | .int n => .ok (.int n)
  | .float _ => .error .floatingPoint
  | .text t => (charsOf t).map .text
  | .bytes b => .error (.unwritable (Value.bytes b).kind)
  | .date d => .error (.unwritable (Value.date d).kind)
  | .moment m => .error (.unwritable (Value.moment m).kind)
  | .list items => (ofItems items).map .list
  | .tuple items => (ofItems items).map .list
  | .dict entries => (ofEntries entries).map fun entries => .map (sortByKey entries)

def ofItems : List Value → Except CanonicalFault (List Json)
  | [] => .ok []
  | item :: rest => do
    let first ← ofValue item
    let others ← ofItems rest
    return first :: others

def ofEntries : List (Value × Value) → Except CanonicalFault (List (List Char × Json))
  | [] => .ok []
  | (.text key, value) :: rest => do
    let key ← charsOf key
    let value ← ofValue value
    let others ← ofEntries rest
    return (key, value) :: others
  | _ :: _ => .error .keyNotText

end

def canonicalText (v : Value) : Except CanonicalFault (List Char) := do
  scan v
  let document ← ofValue v
  return document.render .compact

def canonicalBytes (v : Value) : Except CanonicalFault Bytes :=
  (canonicalText v).map Bytes.utf8

end Json

end BondingPool
