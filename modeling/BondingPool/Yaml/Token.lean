import BondingPool.Yaml.Property
import BondingPool.Yaml.Block

/-!
# Tokens of a YAML text

Indentation and bracketed content are told apart here: outside of brackets, the column in which a
collection begins is its margin, and a line further out ends it. A token may turn out to be a key
only when a colon follows it on its line, at most 1024 characters on; where it began is noted, and
the marks of such keys are put in front of their tokens at the end.

A character that does not exist ends the tokens. What came before it may still be a key there, so
they end at the first token of which that is not known yet.
-/

namespace BondingPool.Yaml

inductive Token
  | directive (d : Directive)
  | documentStart
  | documentEnd
  | openBlockList
  | openBlockMap
  | closeBlock
  | openList
  | closeList
  | openMap
  | closeMap
  | item
  | comma
  | key
  | value
  | reference (name : Name)
  | anchor (name : Name)
  | tag (tag : Tag)
  | scalar (text : Text) (plain : Bool)
  | broken (cause : ScalarFault)

/-- Where a token stands that may be a key. A required one has to be. -/
structure KeyMark where
  token : Nat
  required : Bool
  index : Nat
  line : Nat
  column : Nat

/-- What is known up to a place. Margins count from one, the outermost being nothing; the possible
keys are those of the collection at hand and of the brackets around it. Tokens and the marks of
keys stand newest first, a mark with the number of its token and whether it opens a mapping. -/
structure Scan where
  place : Place
  margins : List Nat
  here : Option KeyMark
  around : List (Option KeyMark)
  keyAllowed : Bool
  tokens : List Token
  count : Nat
  marks : List (Nat × Bool)

namespace Scan

def start (text : List Char) : Scan := ⟨.start text, [], none, [], true, [], 0, []⟩

def margin (s : Scan) : Nat := s.margins.headD 0

def inBrackets (s : Scan) : Bool := !s.around.isEmpty

def add (s : Scan) (token : Token) : Scan :=
  { s with tokens := token :: s.tokens, count := s.count + 1 }

def moveTo (s : Scan) (p : Place) : Scan := { s with place := p }

def allowKey (s : Scan) (allowed : Bool) : Scan := { s with keyAllowed := allowed }

/-- A possible key that is still one, or nothing when a required one is lost. -/
def fresh? (p : Place) : Option KeyMark → Option (Option KeyMark)
  | none => some none
  | some k =>
    if k.line != p.line || 1024 < p.index - k.index then if k.required then none else some none
    else some (some k)

def dropStale? (s : Scan) : Option Scan := do
  let here ← fresh? s.place s.here
  let around ← s.around.mapM (fresh? s.place)
  return { s with here := here, around := around }

def forgetKey? (s : Scan) : Option Scan :=
  match s.here with
  | some k => if k.required then none else some { s with here := none }
  | none => some s

def noteKey? (s : Scan) : Option Scan :=
  if s.keyAllowed then do
    let s ← s.forgetKey?
    let p := s.place
    let required := !s.inBrackets && s.margin == p.column + 1
    return { s with here := some ⟨s.count, required, p.index, p.line, p.column⟩ }
  else some s

def closeBeyond (s : Scan) (margin : Nat) : Scan :=
  if s.inBrackets then s
  else
    let closed := (s.margins.takeWhile (margin < ·)).length
    { s with
      margins := s.margins.drop closed
      tokens := List.replicate closed .closeBlock ++ s.tokens
      count := s.count + closed }

def openAt (s : Scan) (column : Nat) (token : Token) : Scan :=
  if s.margin < column + 1 then { s.add token with margins := (column + 1) :: s.margins } else s

/-- Spaces, comments and breaks up to the next token. Outside of brackets, a new line may begin
with a key. -/
def toToken : Nat → Scan → Scan
  | 0, s => s
  | fuel + 1, s =>
    let p := s.place.skipComment
    match p.lineBreak? with
    | some (_, p) => toToken fuel ((s.moveTo p).allowKey (!s.inBrackets || s.keyAllowed))
    | none => s.moveTo p

def mark (s : Scan) (token : Token) : Scan := (s.moveTo s.place.next).add token

def documentMark? (s : Scan) (token : Token) : Option Scan := do
  let s ← (s.closeBeyond 0).forgetKey?
  return ((s.allowKey false).moveTo (s.place.skip 3)).add token

def openBracket? (s : Scan) (token : Token) : Option Scan := do
  let s ← s.noteKey?
  return { (s.allowKey true).mark token with here := none, around := s.here :: s.around }

def closeBracket? (s : Scan) (token : Token) : Option Scan := do
  let s ← s.forgetKey?
  match s.around with
  | [] => none
  | here :: around => return { (s.allowKey false).mark token with here := here, around := around }

def comma? (s : Scan) : Option Scan := do
  let s ← (s.allowKey true).forgetKey?
  return s.mark .comma

def item? (s : Scan) : Option Scan := do
  if s.inBrackets || s.keyAllowed then
    let s := if s.inBrackets then s else s.openAt s.place.column .openBlockList
    let s ← (s.allowKey true).forgetKey?
    return s.mark .item
  else none

def key? (s : Scan) : Option Scan := do
  if s.inBrackets || s.keyAllowed then
    let s := if s.inBrackets then s else s.openAt s.place.column .openBlockMap
    let s ← (s.allowKey (!s.inBrackets)).forgetKey?
    return s.mark .key
  else none

def settleKey (s : Scan) (k : KeyMark) : Scan :=
  let opens := !s.inBrackets && s.margin < k.column + 1
  { s with
    here := none
    keyAllowed := false
    margins := if opens then (k.column + 1) :: s.margins else s.margins
    marks := (k.token, opens) :: s.marks }

def value? (s : Scan) : Option Scan :=
  match s.here with
  | some k => some ((s.settleKey k).mark .value)
  | none =>
    if s.inBrackets then some ((s.allowKey false).mark .value)
    else if s.keyAllowed then some ((s.openAt s.place.column .openBlockMap).mark .value)
    else none

def property? {α : Type} (s : Scan) (found : Option (α × Place)) (token : α → Token) :
    Option Scan := do
  let s ← s.noteKey?
  let (a, p) ← found
  return ((s.allowKey false).moveTo p).add (token a)

def plain? (s : Scan) : Option Scan := do
  let s ← s.noteKey?
  let (word, crossed, p) := plainScalar s.inBrackets s.margin s.place
  return ((s.allowKey crossed).moveTo p).add (.scalar (.ofChars word) true)

def quoted (s : Scan) (double : Bool) : Except Fault Scan := do
  let s ← orMalformed s.noteKey?
  let (t, p) ← quotedScalar double s.place
  return ((s.allowKey false).moveTo p).add (.scalar t false)

def block? (s : Scan) (folding : Bool) : Option Scan := do
  let s ← (s.allowKey true).forgetKey?
  let (cs, p) ← blockScalar? folding s.margin s.place
  return (s.moveTo p).add (.scalar (.ofChars cs) false)

def directive? (s : Scan) : Option Scan := do
  let s ← (s.closeBeyond 0).forgetKey?
  let (d, p) ← Yaml.directive? s.place
  return ((s.allowKey false).moveTo p).add (.directive d)

def token (s : Scan) (c : Char) (rest : List Char) : Except Fault Scan :=
  let cs := c :: rest
  let first := s.place.column == 0
  if c == '%' && first then orMalformed s.directive?
  else if first && isMark '-' cs then orMalformed (s.documentMark? .documentStart)
  else if first && isMark '.' cs then orMalformed (s.documentMark? .documentEnd)
  else if c == '[' then orMalformed (s.openBracket? .openList)
  else if c == '{' then orMalformed (s.openBracket? .openMap)
  else if c == ']' then orMalformed (s.closeBracket? .closeList)
  else if c == '}' then orMalformed (s.closeBracket? .closeMap)
  else if c == ',' then orMalformed s.comma?
  else if c == '-' && endsWord rest then orMalformed s.item?
  else if c == '?' && (s.inBrackets || endsWord rest) then orMalformed s.key?
  else if c == ':' && (s.inBrackets || endsWord rest) then orMalformed s.value?
  else if c == '*' then orMalformed (s.property? (anchor? s.place) .reference)
  else if c == '&' then orMalformed (s.property? (anchor? s.place) .anchor)
  else if c == '!' then orMalformed (s.property? (tag? s.place) .tag)
  else if c == '|' && !s.inBrackets then orMalformed (s.block? false)
  else if c == '>' && !s.inBrackets then orMalformed (s.block? true)
  else if c == '\'' then s.quoted false
  else if c == '"' then s.quoted true
  else if startsPlain s.inBrackets cs then orMalformed s.plain?
  else .error .malformed

def firstPossibleKey (s : Scan) : Nat :=
  (s.here :: s.around).foldl (fun n known => match known with
    | some k => min n k.token
    | none => n) s.count

def breakOff (s : Scan) (cause : ScalarFault) : Scan :=
  let count := s.firstPossibleKey
  { s with tokens := .broken cause :: s.tokens.drop (s.count - count), count := count + 1 }

def run : Nat → Scan → Except Fault Scan
  | 0, _ => .error .malformed
  | fuel + 1, s => do
    let next ← orMalformed (toToken (s.place.rest.length + 1) s).dropStale?
    match next.place.rest with
    | [] => orMalformed (next.closeBeyond 0).forgetKey?
    | c :: rest =>
      match (next.closeBeyond (next.place.column + 1)).token c rest with
      | .ok found => run fuel found
      | .error .malformed => .error .malformed
      | .error (.scalar cause) => return (← orMalformed s.dropStale?).breakOff cause

end Scan

/-- Tokens from a number on, with the marks of keys, which are in ascending order, put in front of
theirs. -/
def withMarks : List (Nat × Bool) → Nat → List Token → List Token
  | _, _, [] => []
  | [], _, tokens => tokens
  | (number, opens) :: marks, n, token :: rest =>
    if number = n then
      let others := .key :: token :: withMarks marks (n + 1) rest
      if opens then .openBlockMap :: others else others
    else token :: withMarks ((number, opens) :: marks) (n + 1) rest

def tokensOf (text : List Char) : Except Fault (List Token) := do
  let text := match text with
    | c :: rest => if c = byteOrderMark then rest else c :: rest
    | [] => []
  let s ← (Scan.start text).run (text.length + 1)
  return withMarks (s.marks.mergeSort fun a b => a.1 ≤ b.1) 0 s.tokens.reverse

end BondingPool.Yaml
