import BondingPool.Yaml.Quoted
import BondingPool.Text.Numeral

/-!
# Anchors, tags and directives

An anchor names a node for later references to it. A tag names the kind of a node, either whole
or as a suffix to a handle that stands for a prefix. Directives before a document give its version
and the prefixes of its handles.
-/

namespace BondingPool.Yaml

abbrev Name := List Char

def standardStem : Name := "tag:yaml.org,2002:".toList

structure Tag where
  handle : Option Name
  suffix : Name
  deriving DecidableEq, Repr

inductive Directive
  | version (major : Nat)
  | handle (name : Name) (stem : Name)
  | other
  deriving DecidableEq, Repr

def isNameChar (c : Char) : Bool := c.isAlphanum || c == '-' || c == '_'

def tagMarks : List Char :=
  ['-', ';', '/', '?', ':', '@', '&', '=', '+', '$', ',', '_', '.', '!', '~', '*', '\'', '(', ')',
   '[', ']', '%']

def isTagChar (c : Char) : Bool := c.isAlphanum || tagMarks.contains c

def name? (p : Place) : Option (Name × Place) :=
  match p.span isNameChar with
  | ([], _) => none
  | found => some found

def endsName : List Char → Bool
  | [] => true
  | c :: rest => endsWord (c :: rest) || ['?', ':', ',', ']', '}', '%', '@', Char.ofNat 0x60].contains c

def anchor? (p : Place) : Option (Name × Place) := do
  let (name, p) ← name? p.next
  if endsName p.rest then return (name, p) else none

def decoded? (octets : List UInt8) : Option Name :=
  (String.fromUTF8? ⟨octets.toArray⟩).map String.toList

/-- A tag's characters with those put in whose octets stand behind percent signs; `octets` are those
just before. -/
def unescaped? (octets : List UInt8) : List Char → Option Name
  | '%' :: a :: b :: rest =>
    if isHex a && isHex b then unescaped? (octets ++ [.ofNat (hexValue [a, b])]) rest else none
  | [] => decoded? octets
  | c :: rest =>
    if c == '%' then none
    else do
      let before ← decoded? octets
      return before ++ c :: (← unescaped? [] rest)

def tagName? (p : Place) : Option (Name × Place) :=
  match p.span isTagChar with
  | ([], _) => none
  | (name, p) => (unescaped? [] name).map fun name => (name, p)

def handle? (p : Place) : Option (Name × Place) :=
  match p.rest with
  | '!' :: ' ' :: _ => some (p.take 1)
  | '!' :: rest =>
    let inner := rest.takeWhile isNameChar
    if (rest.drop inner.length).head? = some '!' then some (p.take (inner.length + 2)) else none
  | _ => none

def tag? (p : Place) : Option (Tag × Place) := do
  let rest := p.rest.drop 1
  let (tag, p) ←
    if rest.head? = some '<' then do
      let (name, p) ← tagName? (p.skip 2)
      if p.rest.head? = some '>' then some (Tag.mk none name, p.next) else none
    else if endsWord rest then some (Tag.mk none ['!'], p.next)
    else if (rest.takeWhile fun c => !isSpace c && !isBreak c).contains '!' then do
      let (handle, p) ← handle? p
      let (name, p) ← tagName? p
      some (Tag.mk (some handle) name, p)
    else do
      let (name, p) ← tagName? p.next
      some (Tag.mk (some ['!']) name, p)
  if endsField p.rest then return (tag, p) else none

def number? (p : Place) : Option (Nat × Place) :=
  match p.span Char.isDigit with
  | ([], _) => none
  | (digits, p) => some (Text.decimalValue digits, p)

def version? (p : Place) : Option (Directive × Place) := do
  let (major, p) ← number? (p.skipWhile isSpace)
  if p.rest.head? = some '.' then do
    let (_, p) ← number? p.next
    if endsField p.rest then return (.version major, p) else none
  else none

def handleStem? (p : Place) : Option (Directive × Place) := do
  let (handle, p) ← handle? (p.skipWhile isSpace)
  if p.rest.head? = some ' ' then do
    let (stem, p) ← tagName? (p.skipWhile isSpace)
    if endsField p.rest then return (.handle handle stem, p) else none
  else none

def directive? (p : Place) : Option (Directive × Place) := do
  let (name, p) ← name? p.next
  if !endsField p.rest then none
  else
    let (directive, p) ←
      if name = ['Y', 'A', 'M', 'L'] then version? p
      else if name = ['T', 'A', 'G'] then handleStem? p
      else some (.other, p.skipWhile (!isBreak ·))
    let p := p.skipComment
    if endsLine p.rest then return (directive, p.next) else none

end BondingPool.Yaml
