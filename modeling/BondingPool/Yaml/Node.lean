import BondingPool.Yaml.Tree
import BondingPool.Yaml.Kind

/-!
# Nodes of a YAML document

The nodes of a document are numbered as they begin, and each holds what is written in it: a text,
or the numbers of its items, or those of the keys and values of its entries. An anchor names a
node, and a reference stands for the node that its anchor named last, which may be one that it is
itself part of. So nodes make up a graph rather than a tree.

An entry of a mapping whose key is the mark of a merge stands for the entries of the mapping that
is its value, or of a list of mappings, the last of them first. A mapping is laid open when all
such entries are replaced: what they stand for comes in front of the other entries, and a mark of
a default value among the keys of those becomes a text. The mappings merged into it are laid open
before.
-/

namespace BondingPool.Yaml

inductive Content
  | scalar (text : Text)
  | list (items : List Nat)
  | map (entries : List (Nat × Nat))

structure Node where
  kind : Kind
  content : Content

def Node.empty : Node := ⟨.unknown, .scalar []⟩

/-- The nodes of a document by number; the numbers in the order in which the nodes end, the last
one first; the nodes that have a name; and whether a node is part of itself. -/
structure Graph where
  nodes : Array Node
  ended : List Nat
  anchors : List (Name × Nat)
  circular : Bool

namespace Graph

def empty : Graph := ⟨#[], [], [], false⟩

def node (g : Graph) (i : Nat) : Node := g.nodes.getD i Node.empty

def kind (g : Graph) (i : Nat) : Kind := (g.node i).kind

def content (g : Graph) (i : Nat) : Content := (g.node i).content

def set (g : Graph) (i : Nat) (n : Node) : Graph := { g with nodes := g.nodes.setIfInBounds i n }

def entries (g : Graph) (i : Nat) : List (Nat × Nat) :=
  match g.content i with
  | .map entries => entries
  | _ => []

def isMap (g : Graph) (i : Nat) : Bool :=
  match g.content i with
  | .map _ => true
  | _ => false

def start (g : Graph) (anchor : Option Name) : Nat × Graph :=
  let i := g.nodes.size
  let anchors := match anchor with
    | some name => (name, i) :: g.anchors
    | none => g.anchors
  (i, { g with nodes := g.nodes.push Node.empty, anchors := anchors })

def finish (g : Graph) (i : Nat) (n : Node) : Graph := { g.set i n with ended := i :: g.ended }

mutual

/-- The number of a tree's node and the graph with its nodes; `above` are the nodes it is in. A
reference to nothing is of no kind. -/
def addTree (above : List Nat) (g : Graph) : Tree → Nat × Graph
  | .reference name =>
    match g.anchors.lookup name with
    | some i => (i, { g with circular := g.circular || above.contains i })
    | none =>
      let (i, g) := g.start none
      (i, g.finish i Node.empty)
  | .scalar known plain t =>
    let (i, g) := g.start known.anchor
    (i, g.finish i ⟨.ofScalar known.tag plain t, .scalar t⟩)
  | .list known trees =>
    let (i, g) := g.start known.anchor
    let (items, g) := addTrees (i :: above) g trees
    (i, g.finish i ⟨(Kind.ofTag? known.tag).getD .list, .list items⟩)
  | .map known trees =>
    let (i, g) := g.start known.anchor
    let (entries, g) := addEntries (i :: above) g trees
    (i, g.finish i ⟨(Kind.ofTag? known.tag).getD .map, .map entries⟩)

def addTrees (above : List Nat) (g : Graph) : List Tree → List Nat × Graph
  | [] => ([], g)
  | tree :: rest =>
    let (first, g) := addTree above g tree
    let (others, g) := addTrees above g rest
    (first :: others, g)

def addEntries (above : List Nat) (g : Graph) : List (Tree × Tree) → List (Nat × Nat) × Graph
  | [] => ([], g)
  | (key, value) :: rest =>
    let (key, g) := addTree above g key
    let (value, g) := addTree above g value
    let (others, g) := addEntries above g rest
    ((key, value) :: others, g)

end

def ofTree (tree : Tree) : Nat × Graph := addTree [] .empty tree

/-! ### Merged mappings -/

def takeMerge? (g : Graph) : List (Nat × Nat) → Option (Nat × List (Nat × Nat))
  | [] => none
  | (key, value) :: rest =>
    if g.kind key = .merge then some (value, rest)
    else (takeMerge? g rest).map fun (merged, others) => (merged, (key, value) :: others)

def setEntries (g : Graph) (i : Nat) (entries : List (Nat × Nat)) : Graph :=
  g.set i ⟨g.kind i, .map entries⟩

def settleKey (g : Graph) (key : Nat) : Graph :=
  if g.kind key = .default then g.set key ⟨.text, g.content key⟩ else g

def settleKeys (g : Graph) (entries : List (Nat × Nat)) : Graph :=
  entries.foldl (fun g (key, _) => g.settleKey key) g

mutual

def layOpen? (merged : List (Nat × Nat)) : Nat → Graph → Nat → Option Graph
  | 0, _, _ => none
  | fuel + 1, g, i =>
    let entries := g.entries i
    match g.takeMerge? entries with
    | none =>
      let g := g.settleKeys entries
      some (if merged.isEmpty then g else g.setEntries i (merged ++ entries))
    | some (value, others) => do
      let (more, g) ← mergedBy? fuel (g.setEntries i others) value
      layOpen? (merged ++ more) fuel g i

def mergedBy? : Nat → Graph → Nat → Option (List (Nat × Nat) × Graph)
  | 0, _, _ => none
  | fuel + 1, g, i =>
    match g.content i with
    | .scalar _ => none
    | .map _ => do
      let g ← layOpen? [] fuel g i
      return (g.entries i, g)
    | .list items => mergedByAll? fuel g items

def mergedByAll? : Nat → Graph → List Nat → Option (List (Nat × Nat) × Graph)
  | 0, _, _ => none
  | _ + 1, g, [] => some ([], g)
  | fuel + 1, g, i :: rest => do
    if g.isMap i then
      let g ← layOpen? [] fuel g i
      let first := g.entries i
      let (others, g) ← mergedByAll? fuel g rest
      return (others ++ first, g)
    else none

end

end Graph

end BondingPool.Yaml
