import BondingPool.Bytes
import BondingPool.Value
import BondingPool.Json
import BondingPool.Rejection
import BondingPool.Admission

/-!
# Encodings of a curve

A domain tag put in front of hashed data says what the data are: a name, a label, a version in
decimal and a closing NUL. A label is ASCII without NUL, so the closing NUL is the first one in the
tag and nothing that follows can be taken for a part of it. The identity of a curve is a digest of
its price line in lowest terms, so that every way of writing the two ratios of one line has the
same identity.

A price line packs into 32 bytes: its four terms as little-endian words, numerator before
denominator, slope before base. Unpacking admits exactly the byte strings of that length whose
words form a line.

A curve's mapping names its family by a tag and gives the four terms of its line. Reading one
takes a missing tag for the known one, reports all missing terms at once and ignores every other
entry.
-/

namespace BondingPool

/-! ### Domain tags -/

structure DomainTag where
  label : List Char
  version : Nat
  nonempty : label.isEmpty = false
  no_nul : label.contains '\x00' = false
  ascii : label.all Text.isAscii = true
  version_pos : 0 < version
  deriving DecidableEq

namespace DomainTag

inductive LabelFault
  | notText
  | nul
  | notAscii
  | version
  deriving DecidableEq, Repr

def LabelFault.message : LabelFault → String
  | .notText => "label must be a non-empty str"
  | .nul => "label must not contain NUL"
  | .notAscii => "label must be ASCII"
  | .version => "version must be a positive int"

def bytes (tag : DomainTag) : Bytes :=
  Bytes.ascii "bondcurve:" ++ Bytes.utf8 tag.label ++ Bytes.ascii ":v" ++
    Bytes.ascii (toString tag.version) ++ [0]

def ofChars (label : List Char) (version : Value) : Except LabelFault DomainTag :=
  match hl : label.isEmpty, hn : label.contains '\x00', ha : label.all Text.isAscii with
  | true, _, _ => .error .notText
  | false, true, _ => .error .nul
  | false, false, false => .error .notAscii
  | false, false, true =>
    match version.int? with
    | some n =>
      if hv : 0 < n.toNat then .ok ⟨label, n.toNat, hl, hn, ha, hv⟩ else .error .version
    | none => .error .version

/-- A text with a surrogate has no characters to make a label of, but its NULs count first. -/
def ofValues (label version : Value) : Except LabelFault DomainTag :=
  match label.text? with
  | none => .error .notText
  | some t => match t.chars? with
    | some cs => ofChars cs version
    | none => if t.any (·.val == 0) then .error .nul else .error .notAscii

def curve : DomainTag where
  label := ['c', 'u', 'r', 'v', 'e']
  version := 1
  nonempty := rfl
  no_nul := rfl
  ascii := rfl
  version_pos := Nat.one_pos

end DomainTag

/-! ### Identities -/

def Ratio.reduced (q : Ratio) : Nat × Nat :=
  let common := Nat.gcd q.num.val q.den.val
  (q.num.val / common, q.den.val / common)

def Ratio.reducedJson (q : Ratio) : Json :=
  .list [.int q.reduced.1, .int q.reduced.2]

namespace PriceLine

def identityBytes (line : PriceLine) : Bytes :=
  DomainTag.curve.bytes ++ Bytes.utf8 (Json.render .compact (Json.object
    [("curve_tag", Json.string curveTag),
     ("slope", line.slope.reducedJson),
     ("r0", line.base.reducedJson)]))

def identity (line : PriceLine) : String := Sha256.hexDigest line.identityBytes

/-! ### Packed lines -/

def pack (line : PriceLine) : Bytes :=
  line.terms.toList.flatMap fun (_, n) => Bytes.littleEndian 8 n

def wordOf (b : Bytes) (h : b.length = 8) : Word where
  val := Bytes.ofLittleEndian b
  val_le := by
    have hlt := Bytes.ofLittleEndian_lt b
    rw [h] at hlt
    exact Nat.le_of_lt_succ hlt

def unpack (b : Bytes) : Except CurveFault PriceLine :=
  if h : b.length = 32 then
    let at8 (i : Nat) (hi : i ≤ 24) : Word :=
      wordOf ((b.drop i).take 8) (by rw [List.length_take, List.length_drop]; omega)
    (ofWords ⟨at8 0 (by decide), at8 8 (by decide), at8 16 (by decide), at8 24 (by decide)⟩).mapError
      .line
  else .error (.packedLength b.length)

def admitPacked (v : Value) : Admitted CurveFault PriceLine := do
  let b ← Admitted.bytes v
  Admitted.ofExcept (unpack b)

theorem length_pack (line : PriceLine) : line.pack.length = 32 := by
  simp [pack, Terms.toList, Term.all]

/-! ### Mappings -/

def tagKey : String := "curve_tag"

def toJson (line : PriceLine) : Json :=
  Json.object ((tagKey, Json.string curveTag) ::
    line.terms.toList.map fun (term, n) => (term.key, Json.int n))

/-- The mapping as a loose value, in the order tag, slope, base. -/
def toValue (line : PriceLine) : Value :=
  .dict ((.text (.ofString tagKey), .text (.ofString curveTag)) ::
    line.terms.toList.map fun (term, n) => (.text (.ofString term.key), .int n))

def ofEntries (entries : List (Value × Value)) : Except CurveFault PriceLine :=
  let missing := Term.all.filter fun term => (Value.field? entries term.key).isNone
  let tag := (Value.field? entries tagKey).getD (.text (.ofString curveTag))
  if tag.text? ≠ some (.ofString curveTag) then .error (.unknownTag tag.shown)
  else if missing ≠ [] then .error (.missingTerms missing)
  else (ofValues (.ofFn fun term => (Value.field? entries term.key).getD .null)).mapError .line

def ofValue (v : Value) : Except CurveFault PriceLine :=
  match v.dict? with
  | some entries => ofEntries entries
  | none => .error .notMapping

end PriceLine

end BondingPool
