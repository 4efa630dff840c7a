import BondingPool.Yaml.Plain

/-!
# Block scalars

A block scalar begins on the line after its header and holds every line that is indented as far
as its first one, or as far as the header says. A literal one keeps its breaks; in a folded one a
single break between lines that begin with neither a space nor a tab counts as a space. Of the
breaks at its end it keeps one, all or none.
-/

namespace BondingPool.Yaml

inductive Chomping
  | strip
  | clip
  | keep
  deriving DecidableEq, Repr

structure BlockHeader where
  chomping : Chomping
  increment : Option Nat

def chompingOf? : List Char → Option (Chomping × List Char)
  | '+' :: rest => some (.keep, rest)
  | '-' :: rest => some (.strip, rest)
  | _ => none

def incrementOf? : List Char → Option (Nat × List Char)
  | c :: rest => if c.isDigit then some (c.toNat - 0x30, rest) else none
  | [] => none

def headerOf (cs : List Char) : BlockHeader × List Char :=
  match chompingOf? cs, incrementOf? cs with
  | some (chomping, rest), _ =>
    match incrementOf? rest with
    | some (n, rest) => (⟨chomping, some n⟩, rest)
    | none => (⟨chomping, none⟩, rest)
  | none, some (n, rest) =>
    match chompingOf? rest with
    | some (chomping, rest) => (⟨chomping, some n⟩, rest)
    | none => (⟨.clip, some n⟩, rest)
  | none, none => (⟨.clip, none⟩, cs)

def blockHeader? (p : Place) : Option (BlockHeader × Place) :=
  let (header, rest) := headerOf p.rest
  if header.increment = some 0 || !endsField rest then none
  else
    let p := (p.skip (p.rest.length - rest.length)).skipComment
    if endsLine p.rest then some (header, p.next) else none

def leadingBreaks : Nat → Place → List Char × Nat × Place
  | 0, p => ([], 0, p)
  | fuel + 1, p =>
    let (spaces, p) := p.span isSpace
    let column := if spaces.isEmpty then 0 else p.column
    match p.lineBreak? with
    | none => ([], column, p)
    | some (c, p) =>
      let (breaks, deepest, p) := leadingBreaks fuel p
      (c :: breaks, max column deepest, p)

def toIndent (indent : Nat) (p : Place) : Place :=
  p.skip (min (indent - p.column) (p.rest.takeWhile isSpace).length)

def blockBreaks (indent : Nat) : Nat → Place → List Char × Place
  | 0, p => ([], p)
  | fuel + 1, p =>
    let p := toIndent indent p
    match p.lineBreak? with
    | none => ([], p)
    | some (c, p) =>
      let (breaks, p) := blockBreaks indent fuel p
      (c :: breaks, p)

def beginsBlank (cs : List Char) : Bool := cs.head?.any isSpaceOrTab

/-- What the break after a line stands for, when the next line of the scalar comes after it. -/
def joint (folding : Bool) (first : Char) (others : List Char) (line next : List Char) :
    List Char :=
  if folding && first == '\n' && !beginsBlank line && !beginsBlank next then
    if others.isEmpty then [' '] else []
  else [first]

def tailOf (chomping : Chomping) (first : Option Char) (others : List Char) : List Char :=
  match chomping with
  | .strip => []
  | .clip => first.toList
  | .keep => first.toList ++ others

def blockLines (folding : Bool) (chomping : Chomping) (indent : Nat) :
    Nat → List Char → Place → List Char × Place
  | 0, _, p => ([], p)
  | fuel + 1, before, p =>
    let (line, q) := p.span (!isBreak ·)
    let (first, q) := match q.lineBreak? with
      | some (c, q) => (some c, q)
      | none => (none, q)
    let (others, q) := blockBreaks indent (q.rest.length + 1) q
    match first with
    | some c =>
      if q.column = indent ∧ !q.isAtEnd then
        let (more, final) := blockLines folding chomping indent fuel others q
        (before ++ line ++ joint folding c others p.rest q.rest ++ more, final)
      else (before ++ line ++ tailOf chomping first others, q)
    | none => (before ++ line ++ tailOf chomping first others, q)

def blockScalar? (folding : Bool) (margin : Nat) (p : Place) : Option (List Char × Place) := do
  let (header, p) ← blockHeader? p.next
  let least := max margin 1
  let (breaks, indent, p) := match header.increment with
    | some n =>
      let indent := least + n - 1
      let (breaks, p) := blockBreaks indent (p.rest.length + 1) p
      (breaks, indent, p)
    | none =>
      let (breaks, deepest, p) := leadingBreaks (p.rest.length + 1) p
      (breaks, max least deepest, p)
  if p.column = indent ∧ !p.isAtEnd then
    return blockLines folding header.chomping indent (p.rest.length + 1) breaks p
  else return (tailOf header.chomping none breaks, p)

end BondingPool.Yaml
