import BondingPool.Yaml.Node
import BondingPool.Yaml.Scalar
import BondingPool.Value
import BondingPool.Text.Basic

/-!
# YAML documents

A text holds one document: block collections laid out by indentation, flow collections in
brackets, plain, quoted and block scalars, anchors, tags and directives. A document without
content is null.

A scalar is made when it is reached, and a collection is reached before anything in it is made:
first everything next to the root, then what is in the collections found there, and so on, each in
the order of the document. The first fault met on the way is the fault of the document. A mapping
is laid open just before its keys and values are made; a collection cannot be a key. A mapping that
is to be a scalar stands for the text under its default key.
-/

namespace BondingPool.Yaml

/-! ### Values of nodes -/

/-- A graph, the values of the scalars reached so far, and the collections to be made next, the last
one first. A collection reached has an empty value for the time being. -/
structure Making where
  graph : Graph
  values : Array (Option Value)
  reached : List Nat

namespace Graph

def text? (g : Graph) : Nat → Nat → Option Text
  | 0, _ => none
  | fuel + 1, i =>
    match g.content i with
    | .scalar t => some t
    | .map entries =>
      match entries.find? fun (key, _) => g.kind key = .default with
      | some (_, value) => text? g fuel value
      | none => none
    | .list _ => none

def scalarText? (g : Graph) (i : Nat) : Option Text := g.text? (g.nodes.size + 1) i

def ofReading {α : Type} (make : α → Value) (reading : Reading α) : Except Fault Value :=
  (reading.map make).mapError .scalar

def valueOf (kind : Kind) (t : Text) : Except Fault Value :=
  match kind with
  | .null => .ok .null
  | .bool => ofReading .bool (truthOf t)
  | .int => ofReading .int (integerOf t)
  | .float => ofReading .float (floatOf t)
  | .timestamp => ofReading id (timestampOf t)
  | .binary => (orMalformed (bytesOf? t)).map .bytes
  | .text => .ok (.text t)
  | _ => .error .malformed

def scalarValue (g : Graph) (i : Nat) : Except Fault Value := do
  let t ← orMalformed (g.scalarText? i)
  if g.kind i = .timestamp ∧ g.isMap i then .error (.scalar .entriesForMoment)
  else valueOf (g.kind i) t

def isSharedNaN (g : Graph) (i : Nat) : Bool :=
  -- numbers that are none are one when spelled by a word, and a numeral is itself only
  g.kind i = .float && (g.scalarText? i).any isNotANumberWord

/-- Keys are the same when they are equal, or the same node. -/
def sameKey (g : Graph) : Nat × Value → Nat × Value → Bool
  | (i, .float x), (j, .float y) =>
    if x.read == .notANumber && y.read == .notANumber then
      i == j || (g.isSharedNaN i && g.isSharedNaN j)
    else Value.same (.float x) (.float y)
  | (_, v), (_, w) => v.same w

def valueAt (values : Array Value) (i : Nat) : Value := values.getD i .null

def keyedValues (values : Array Value) (entries : List (Nat × Nat)) :
    List ((Nat × Value) × Value) :=
  entries.map fun (key, value) => ((key, valueAt values key), valueAt values value)

def collectionValue? (g : Graph) (values : Array Value) (i : Nat) : Option Value :=
  let distinct := fun entries : List (Nat × Nat) =>
    (Value.distinct g.sameKey (keyedValues values entries)).map fun ((_, k), v) => (k, v)
  match g.kind i, g.content i with
  | .list, .list items => some (.list (items.map (valueAt values)))
  | .map, .map entries => some (.dict (distinct entries))
  | .set, .map entries => some (.list ((distinct entries).map (·.1)))
  | .pairs, .list items => some (.list (items.flatMap fun item => (g.entries item).map
      fun (key, value) => .tuple [valueAt values key, valueAt values value]))
  | _, _ => none

def addCollection (g : Graph) (values : Array Value) (i : Nat) : Array Value :=
  match g.collectionValue? values i with
  | some v => values.setIfInBounds i v
  | none => values

end Graph

namespace Making

def start (g : Graph) : Making := ⟨g, Array.replicate g.nodes.size none, []⟩

def reach (m : Making) (i : Nat) : Except Fault Making :=
  match m.values.getD i none with
  | some _ => .ok m
  | none =>
    if (m.graph.kind i).isCollection then
      .ok { m with values := m.values.setIfInBounds i (some .null), reached := i :: m.reached }
    else do
      let v ← m.graph.scalarValue i
      return { m with values := m.values.setIfInBounds i (some v) }

def reachAll (m : Making) : List Nat → Except Fault Making
  | [] => .ok m
  | i :: rest => do (← m.reach i).reachAll rest

def reachEntries (m : Making) : List (Nat × Nat) → Except Fault Making
  | [] => .ok m
  | (key, value) :: rest => do
    let m ← m.reach key
    if (m.graph.kind key).isCollection then .error .malformed
    else (← m.reach value).reachEntries rest

def reachPairs (m : Making) : List Nat → Except Fault Making
  | [] => .ok m
  | i :: rest =>
    match m.graph.content i with
    | .map [(key, value)] => do (← (← m.reach key).reach value).reachPairs rest
    | _ => .error .malformed

def fill (fuel : Nat) (m : Making) (i : Nat) : Except Fault Making :=
  match m.graph.kind i, m.graph.content i with
  | .list, .list items => m.reachAll items
  | .pairs, .list items => m.reachPairs items
  | .map, .map _ => fillMap i
  | .set, .map _ => fillMap i
  | _, _ => .error .malformed
where
  fillMap (i : Nat) : Except Fault Making := do
    let g ← orMalformed (m.graph.layOpen? [] fuel i)
    { m with graph := g }.reachEntries (g.entries i)

def fillAll (fuel : Nat) (m : Making) : List Nat → Except Fault Making
  | [] => .ok m
  | i :: rest => do (← m.fill fuel i).fillAll fuel rest

def complete (fuel : Nat) : Nat → Making → Except Fault Making
  | 0, m => .ok m
  | depth + 1, m =>
    if m.reached.isEmpty then .ok m
    else do complete fuel depth (← { m with reached := [] }.fillAll fuel m.reached.reverse)

/-- How many levels are made of a document in which nodes are part of themselves. -/
def circularDepth : Nat := 5

/-- The values of all nodes; each pass makes one level more of what is part of itself. -/
def results (m : Making) : Array Value :=
  let passes := if m.graph.circular then circularDepth else 1
  ((List.replicate passes m.graph.ended.reverse).flatten).foldl m.graph.addCollection
    (m.values.map (·.getD .null))

end Making

def Content.size : Content → Nat
  | .scalar _ => 0
  | .list items => items.length
  | .map entries => entries.length

/-- More steps than all merges of a graph take: there are no more of them than entries, and each
looks at no more than all entries and items. -/
def Graph.mergeFuel (g : Graph) : Nat :=
  let size := g.nodes.foldl (fun n node => n + node.content.size) 3
  size * size

def Graph.value (g : Graph) (root : Nat) : Except Fault Value := do
  let m ← (Making.start g).reach root
  let m ← m.complete g.mergeFuel (g.nodes.size + 1)
  return Graph.valueAt m.results root

/-! ### Documents -/

def isAllowed (c : Char) : Bool :=
  let n := c.toNat
  n == 0x09 || n == 0x0A || n == 0x0D || (0x20 ≤ n && n ≤ 0x7E) || n == 0x85 ||
    (0xA0 ≤ n && n ≤ 0xFFFD) || 0x10000 ≤ n

def parse (text : List Char) : Except Fault Value :=
  if text.all isAllowed then do
    let tree ← Tree.ofTokens (← tokensOf (Text.withPlainBreaks text))
    let (root, graph) := Graph.ofTree tree
    graph.value root
  else .error .malformed

end BondingPool.Yaml
