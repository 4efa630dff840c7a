import BondingPool.Yaml.Place

/-!
# Plain scalars

A plain scalar has no quotes around it. It ends before a colon with a blank after it, before a
comment, and inside a flow collection before a comma, a bracket or a question mark. It may go on
over the next lines as far as they are indented; a single break in it counts as a space and of
several the first is dropped.
-/

namespace BondingPool.Yaml

def isFlowMark (c : Char) : Bool :=
  c == ',' || c == '[' || c == ']' || c == '{' || c == '}'

def indicators : List Char :=
  ['-', '?', ':', ',', '[', ']', '{', '}', '#', '&', '*', '!', '|', '>', '\'', '"', '%', '@',
   Char.ofNat 0x60]

def startsPlain (flow : Bool) (cs : List Char) : Bool :=
  match cs with
  | [] => false
  | c :: rest =>
    !endsWord cs &&
      (!indicators.contains c ||
        (!endsWord rest && (c == '-' || (!flow && (c == '?' || c == ':')))))

def plainLength (flow : Bool) : List Char → Nat
  | [] => 0
  | c :: rest =>
    if endsWord (c :: rest) || (flow && (isFlowMark c || c == '?')) ||
      (c == ':' && (endsWord rest || (flow && rest.head?.any isFlowMark))) then 0
    else plainLength flow rest + 1

/-- The breaks among spaces and breaks, up to what is neither or to a document's mark; at a mark
there are none. -/
def plainBreaks : Nat → Place → Option (List Char) × Place
  | 0, p => (none, p)
  | fuel + 1, p =>
    if isAnyMark p.rest then (none, p)
    else
      let p := p.skipWhile isSpace
      match p.lineBreak? with
      | none => (some [], p)
      | some (c, p) =>
        let (breaks, p) := plainBreaks fuel p
        (breaks.map (c :: ·), p)

def folded (first : Char) (others : List Char) : List Char :=
  if first ≠ '\n' then first :: others
  else if others.isEmpty then [' ']
  else others

def plainBlanks (p : Place) : List Char × Bool × Place :=
  let (spaces, p) := p.span isSpace
  match p.lineBreak? with
  | none => (spaces, false, p)
  | some (first, p) =>
    match plainBreaks (p.rest.length + 1) p with
    | (none, p) => ([], true, p)
    | (some others, p) => (folded first others, true, p)

def startsComment (cs : List Char) : Bool := cs.head? == some '#'

/-- The scalar from here on, put after the blanks before it, with the place after it and the
blanks behind it, and whether there is a break among those. -/
def plainWords (flow : Bool) (margin : Nat) :
    Nat → List Char → Bool → Place → List Char × Bool × Place
  | 0, _, crossed, p => ([], crossed, p)
  | fuel + 1, before, crossed, p =>
    match p.take (plainLength flow p.rest) with
    | ([], p) => ([], crossed, p)
    | (word, p) =>
      let (blanks, crossed, p) := plainBlanks p
      if blanks.isEmpty || startsComment p.rest || (!flow && p.column < margin) then
        (before ++ word, crossed, p)
      else
        let (others, crossed, p) := plainWords flow margin fuel blanks crossed p
        (before ++ word ++ others, crossed, p)

def plainScalar (flow : Bool) (margin : Nat) (p : Place) : List Char × Bool × Place :=
  plainWords flow margin (p.rest.length + 1) [] false p

end BondingPool.Yaml
