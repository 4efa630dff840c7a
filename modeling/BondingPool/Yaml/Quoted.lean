import BondingPool.Yaml.Plain
import BondingPool.Yaml.Place

/-!
# Quoted scalars

Between single quotes everything stands for itself, a quote being written twice. Between double
quotes a backslash begins an escape. A break counts as in a plain scalar, whatever the indentation
of the next line; the text may not run into the mark of a document.
-/

namespace BondingPool.Yaml

def isHex (c : Char) : Bool := c.isDigit || ('a' ≤ c && c ≤ 'f') || ('A' ≤ c && c ≤ 'F')

def hexDigitValue (c : Char) : Nat :=
  if c.isDigit then c.toNat - 0x30 else if 'a' ≤ c then c.toNat - 0x57 else c.toNat - 0x37

def hexValue (cs : List Char) : Nat := cs.foldl (fun value c => 16 * value + hexDigitValue c) 0

def letterEscape? : Char → Option Char
  | '0' => some '\x00'
  | 'a' => some '\x07'
  | 'b' => some '\x08'
  | 't' => some '\t'
  | '\t' => some '\t'
  | 'n' => some '\n'
  | 'v' => some '\x0b'
  | 'f' => some '\x0c'
  | 'r' => some '\r'
  | 'e' => some '\x1b'
  | ' ' => some ' '
  | '"' => some '"'
  | '/' => some '/'
  | '\\' => some '\\'
  | 'N' => some '\u0085'
  | '_' => some '\u00a0'
  | 'L' => some '\u2028'
  | 'P' => some '\u2029'
  | _ => none

def escapeWidth? : Char → Option Nat
  | 'x' => some 2
  | 'u' => some 4
  | 'U' => some 8
  | _ => none

def codePoint (n : Nat) : Except Fault CodePoint :=
  if h : n < 0x110000 then .ok ⟨n, h⟩
  else .error (.scalar (if n < 0x80000000 then .noCodePoint else .noWord))

def quotedBreaks : Nat → Place → Except Fault (List Char × Place)
  | 0, _ => .error .malformed
  | fuel + 1, p =>
    if isAnyMark p.rest then .error .malformed
    else
      let p := p.skipWhile isSpaceOrTab
      match p.lineBreak? with
      | none => .ok ([], p)
      | some (c, p) => do
        let (breaks, p) ← quotedBreaks fuel p
        return (c :: breaks, p)

def quotedBlanks (p : Place) : Except Fault (List Char × Place) :=
  let (blanks, p) := p.span isSpaceOrTab
  match p.lineBreak? with
  | some (first, p) => do
    let (others, p) ← quotedBreaks (p.rest.length + 1) p
    return (folded first others, p)
  | none => if p.isAtEnd then .error .malformed else .ok (blanks, p)

def escape (p : Place) : Except Fault (Text × Place) :=
  match p.rest with
  | [] => .error .malformed
  | c :: rest =>
    match escapeWidth? c with
    | some width => do
      let (digits, p) := (p.past c rest).take width
      if digits.length = width ∧ digits.all isHex then
        return ([← codePoint (hexValue digits)], p)
      else .error .malformed
    | none =>
      match letterEscape? c, p.lineBreak? with
      | some c', _ => .ok ([.ofChar c'], p.past c rest)
      | none, some (_, p) => do
        let (breaks, p) ← quotedBreaks (p.rest.length + 1) p
        return (.ofChars breaks, p)
      | none, none => .error .malformed

def quotedText (double : Bool) : Nat → Place → Except Fault (Text × Place)
  | 0, _ => .error .malformed
  | fuel + 1, p =>
    match p.rest with
    | [] => .error .malformed
    | c :: rest => do
      if endsWord p.rest then
        let (blanks, p) ← quotedBlanks p
        let (t, p) ← quotedText double fuel p
        return (.ofChars blanks ++ t, p)
      else if double && c == '\\' then
        let (start, p) ← escape (p.past c rest)
        let (t, p) ← quotedText double fuel p
        return (start ++ t, p)
      else if !double && c == '\'' && rest.head? == some '\'' then
        let (t, p) ← quotedText double fuel (p.skip 2)
        return (.ofChar c :: t, p)
      else if c == (if double then '"' else '\'') then
        return ([], p.past c rest)
      else
        let (t, p) ← quotedText double fuel (p.past c rest)
        return (.ofChar c :: t, p)

def quotedScalar (double : Bool) (p : Place) : Except Fault (Text × Place) :=
  quotedText double (p.rest.length + 1) p.next

end BondingPool.Yaml
