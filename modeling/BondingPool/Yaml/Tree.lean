import BondingPool.Yaml.Token

/-!
# Trees of a YAML text

A tree is what the tokens of a document say, before tags and references are looked up: scalars,
lists and mappings with the anchors and tags in front of them, and references to anchors. Content
that is left out is an empty plain scalar.

Tokens that end with a fault have that fault if everything before it can be the start of a document;
otherwise they are malformed.
-/

namespace BondingPool.Yaml

structure Properties where
  anchor : Option Name
  tag : Option Name

def Properties.none : Properties := ⟨.none, .none⟩

inductive Tree
  | scalar (properties : Properties) (plain : Bool) (text : Text)
  | list (properties : Properties) (items : List Tree)
  | map (properties : Properties) (entries : List (Tree × Tree))
  | reference (name : Name)

namespace Tree

def empty : Tree := .scalar .none true []

abbrev Handles := List (Name × Name)

def standardHandles : Handles := [(['!'], ['!']), (['!', '!'], standardStem)]

def stuck : List Token → Fault
  | .broken cause :: _ => .scalar cause
  | _ => .malformed

def tagName? (handles : Handles) (tag : Tag) : Option Name :=
  match tag.handle with
  | none => some tag.suffix
  | some handle => (handles.lookup handle).map (· ++ tag.suffix)

/-- The properties that come first, and what follows them. The handle of a tag is looked up when it
is known whether an anchor follows. -/
def properties (handles : Handles) (tokens : List Token) :
    Except Fault (Option Properties × List Token) :=
  match tokens with
  | .anchor name :: .tag tag :: rest => do
    return (some ⟨name, ← orMalformed (tagName? handles tag)⟩, rest)
  | .tag tag :: .anchor name :: rest => do
    return (some ⟨name, ← orMalformed (tagName? handles tag)⟩, rest)
  | .anchor name :: rest => .ok (some ⟨name, none⟩, rest)
  | .tag tag :: rest =>
    match tagName? handles tag with
    | some name => .ok (some ⟨none, name⟩, rest)
    | none => .error (stuck rest)
  | rest => .ok (none, rest)

def isPlain (properties : Properties) (plain : Bool) : Bool :=
  match properties.tag with
  | none => plain
  | some tag => tag == ['!']

def endsBlockValue : List Token → Bool
  | .key :: _ => true
  | .value :: _ => true
  | .closeBlock :: _ => true
  | _ => false

def endsBlockItem : List Token → Bool
  | .item :: _ => true
  | .closeBlock :: _ => true
  | _ => false

def endsListEntry : List Token → Bool
  | .comma :: _ => true
  | .closeList :: _ => true
  | _ => false

def endsMapEntry : List Token → Bool
  | .comma :: _ => true
  | .closeMap :: _ => true
  | _ => false

def startsValue : List Token → Bool
  | .value :: _ => true
  | _ => false

/-- Which collections may begin here: those in brackets always, those laid out in lines in a
block, and a list in the column of its key as that key's content only. -/
inductive Position
  | flow
  | block
  | entry
  deriving DecidableEq

abbrev Found (α : Type) := α × List Token

mutual

def node (handles : Handles) : Nat → Position → List Token → Except Fault (Found Tree)
  | 0, _, tokens => .error (stuck tokens)
  | _ + 1, _, .reference name :: rest => .ok (.reference name, rest)
  | fuel + 1, position, tokens => do
    let (given, tokens) ← properties handles tokens
    let known := given.getD .none
    match tokens with
    | .scalar text plain :: rest => return (.scalar known (isPlain known plain) text, rest)
    | .openList :: rest =>
      (listEntries handles fuel true rest).map fun (items, rest) => (.list known items, rest)
    | .openMap :: rest =>
      (mapEntries handles fuel true rest).map fun (entries, rest) => (.map known entries, rest)
    | .item :: _ =>
      if position = .entry then
        (looseItems handles fuel tokens).map fun (items, rest) => (.list known items, rest)
      else unwritten given tokens
    | .openBlockList :: rest =>
      if position = .flow then unwritten given tokens
      else (blockItems handles fuel rest).map fun (items, rest) => (.list known items, rest)
    | .openBlockMap :: rest =>
      if position = .flow then unwritten given tokens
      else (blockEntries handles fuel rest).map fun (es, rest) => (.map known es, rest)
    | _ => unwritten given tokens

def unwritten (given : Option Properties) (tokens : List Token) : Except Fault (Found Tree) :=
  match given with
  | some known => .ok (.scalar known (isPlain known true) [], tokens)
  | none => .error (stuck tokens)

def content (handles : Handles) (position : Position) (ends : List Token → Bool) :
    Nat → List Token → Except Fault (Found Tree)
  | 0, tokens => .error (stuck tokens)
  | fuel + 1, tokens =>
    if ends tokens then .ok (.empty, tokens) else node handles fuel position tokens

def blockItems (handles : Handles) : Nat → List Token → Except Fault (Found (List Tree))
  | 0, tokens => .error (stuck tokens)
  | fuel + 1, .item :: rest => do
    let (first, rest) ← content handles .block endsBlockItem fuel rest
    let (others, rest) ← blockItems handles fuel rest
    return (first :: others, rest)
  | _ + 1, .closeBlock :: rest => .ok ([], rest)
  | _ + 1, tokens => .error (stuck tokens)

def looseItems (handles : Handles) : Nat → List Token → Except Fault (Found (List Tree))
  | 0, tokens => .error (stuck tokens)
  | fuel + 1, .item :: rest => do
    let (first, rest) ←
      content handles .block (fun ts => endsBlockItem ts || endsBlockValue ts) fuel rest
    let (others, rest) ← looseItems handles fuel rest
    return (first :: others, rest)
  | _ + 1, rest => .ok ([], rest)

def blockEntries (handles : Handles) :
    Nat → List Token → Except Fault (Found (List (Tree × Tree)))
  | 0, tokens => .error (stuck tokens)
  | fuel + 1, .key :: rest => do
    let (key, rest) ← content handles .entry endsBlockValue fuel rest
    let (value, rest) ← value handles .entry endsBlockValue fuel rest
    let (others, rest) ← blockEntries handles fuel rest
    return ((key, value) :: others, rest)
  | _ + 1, .closeBlock :: rest => .ok ([], rest)
  | _ + 1, tokens => .error (stuck tokens)

def value (handles : Handles) (position : Position) (ends : List Token → Bool) :
    Nat → List Token → Except Fault (Found Tree)
  | 0, tokens => .error (stuck tokens)
  | fuel + 1, .value :: rest => content handles position ends fuel rest
  | _ + 1, rest => .ok (.empty, rest)

def listEntries (handles : Handles) : Nat → Bool → List Token → Except Fault (Found (List Tree))
  | 0, _, tokens => .error (stuck tokens)
  | _ + 1, _, .closeList :: rest => .ok ([], rest)
  | fuel + 1, false, .comma :: rest =>
    match rest with
    | .closeList :: rest => .ok ([], rest)
    | _ => listEntry handles fuel rest
  | fuel + 1, true, tokens => listEntry handles fuel tokens
  | _ + 1, false, tokens => .error (stuck tokens)

def listEntry (handles : Handles) : Nat → List Token → Except Fault (Found (List Tree))
  | 0, tokens => .error (stuck tokens)
  | fuel + 1, tokens => do
    let (first, rest) ← match tokens with
      | .key :: rest => do
        let ends (ts : List Token) : Bool := startsValue ts || endsListEntry ts
        let (key, rest) ← content handles .flow ends fuel rest
        let (value, rest) ← value handles .flow endsListEntry fuel rest
        pure (Tree.map .none [(key, value)], rest)
      | _ => node handles fuel .flow tokens
    let (others, rest) ← listEntries handles fuel false rest
    return (first :: others, rest)

def mapEntries (handles : Handles) :
    Nat → Bool → List Token → Except Fault (Found (List (Tree × Tree)))
  | 0, _, tokens => .error (stuck tokens)
  | _ + 1, _, .closeMap :: rest => .ok ([], rest)
  | fuel + 1, false, .comma :: rest =>
    match rest with
    | .closeMap :: rest => .ok ([], rest)
    | _ => mapEntry handles fuel rest
  | fuel + 1, true, tokens => mapEntry handles fuel tokens
  | _ + 1, false, tokens => .error (stuck tokens)

def mapEntry (handles : Handles) :
    Nat → List Token → Except Fault (Found (List (Tree × Tree)))
  | 0, tokens => .error (stuck tokens)
  | fuel + 1, tokens => do
    let (first, rest) ← match tokens with
      | .key :: rest => do
        let ends (ts : List Token) : Bool := startsValue ts || endsMapEntry ts
        let (key, rest) ← content handles .flow ends fuel rest
        let (value, rest) ← value handles .flow endsMapEntry fuel rest
        pure ((key, value), rest)
      | _ => do
        let (key, rest) ← node handles fuel .flow tokens
        pure ((key, Tree.empty), rest)
    let (others, rest) ← mapEntries handles fuel false rest
    return (first :: others, rest)

end

def directives (handles : Handles) (versioned : Bool) :
    List Token → Except Fault (Handles × List Token)
  | .directive d :: rest =>
    match d with
    | .version major =>
      if versioned || major != 1 then .error .malformed else directives handles true rest
    | .handle name stem =>
      if (handles.lookup name).isSome then .error .malformed
      else directives ((name, stem) :: handles) versioned rest
    | .other => directives handles versioned rest
  | rest => .ok (handles ++ standardHandles, rest)

def isExplicit : List Token → Bool
  | .directive _ :: _ => true
  | .documentStart :: _ => true
  | _ => false

def endsDocument : List Token → Bool
  | [] => true
  | .directive _ :: _ => true
  | .documentStart :: _ => true
  | .documentEnd :: _ => true
  | _ => false

def ending : List Token → Except Fault Unit
  | [] => .ok ()
  | .documentEnd :: rest => ending rest
  | tokens =>
    match directives [] false tokens with
    | .ok (_, rest) => .error (stuck rest)
    | .error fault => .error fault

def document (tokens : List Token) : Except Fault (Found Tree) :=
  let fuel := 4 * tokens.length + 4
  if isExplicit tokens then
    match directives [] false tokens with
    | .ok (handles, .documentStart :: rest) => content handles .block endsDocument fuel rest
    | .ok (_, rest) => .error (stuck rest)
    | .error fault => .error fault
  else node standardHandles fuel .block tokens

/-- Every reference is to an anchor before it, and no anchor has the name of another. An anchor
counts when it is known what its properties are in front of. -/
def namesKnown (names : List Name) : List Token → Bool
  | .reference name :: rest => names.contains name && namesKnown names rest
  | .anchor name :: .tag _ :: rest => newName name rest && namesKnown (name :: names) rest
  | .tag _ :: .anchor name :: rest => newName name rest && namesKnown (name :: names) rest
  | .anchor name :: rest => newName name rest && namesKnown (name :: names) rest
  | _ :: rest => namesKnown names rest
  | [] => true
where
  newName (name : Name) : List Token → Bool
    | .broken _ :: _ => true
    | _ => !names.contains name

def ofTokens (tokens : List Token) : Except Fault Tree :=
  if tokens.isEmpty then .ok .empty
  else if namesKnown [] tokens then do
    let (tree, rest) ← document tokens
    ending rest
    return tree
  else .error .malformed

end Tree

end BondingPool.Yaml
