import BondingPool.Curve
import BondingPool.Pool
import BondingPool.Value
import BondingPool.File
import BondingPool.Yaml.Place

/-!
# Configured curves

A configuration names curves and gives each the four terms of its line and the supply it opens
with. A document is a configuration when its entry for the curves is a mapping with at least one
entry, every name holds something besides blanks, and every body has exactly the five known
keys, with integers for values, a valid line and a positive supply. Curves are checked in the
order of the document, and of a body first its keys, then its line, then its supply. Unknown keys
are reported in ascending order, which not every set of keys has.
-/

namespace BondingPool

structure CurveConfig where
  name : Text
  line : PriceLine
  supply : Nat
  supply_pos : 0 < supply
  deriving Repr

abbrev Config := List CurveConfig

inductive ConfigPlace
  | document
  | curves
  | curve (name : Text)
  deriving DecidableEq, Repr

inductive ConfigFault
  | notMapping (place : ConfigPlace)
  | noCurves
  | emptyName
  | unknownKeys (curve : Text) (keys : List Text)
  | missingKeys (curve : Text) (keys : List String)
  | notInteger (curve : Text) (key : String)
  | badLine (curve : Text) (fault : LineFault)
  | noSupply (curve : Text)
  | unreadable (path : Path) (fault : FileFault)
  | notYaml (path : Path)
  deriving DecidableEq, Repr

/-- A document is refused with a reason, or its unknown keys have no order to be named in, or a
scalar of its text stands for no value. -/
inductive DocumentFault
  | invalid (fault : ConfigFault)
  | unordered
  | noValue (cause : Yaml.ScalarFault)
  deriving DecidableEq, Repr

def supplyKey : String := "initial_bonded_balance"

def ConfigPlace.path : ConfigPlace → Text
  | .document => .ofString "config"
  | .curves => .ofString "config.curves"
  | .curve name => .ofString "curves." ++ name

def Text.commas : List Text → Text
  | [] => []
  | [item] => item
  | item :: rest => item ++ Text.ofString ", " ++ commas rest

def ConfigFault.message : ConfigFault → Text
  | .notMapping place => place.path ++ .ofString " must be a mapping"
  | .noCurves => .ofString "config.curves must not be empty"
  | .emptyName => .ofString "curve names must be non-empty strings"
  | .unknownKeys curve keys =>
    (ConfigPlace.curve curve).path ++ .ofString " has unknown keys: " ++ Text.commas keys
  | .missingKeys curve keys =>
    (ConfigPlace.curve curve).path ++ .ofString (" is missing keys: " ++ Value.commas keys)
  | .notInteger curve key =>
    (ConfigPlace.curve curve).path ++ .ofString ("." ++ key ++ " must be an int")
  | .badLine curve fault => (ConfigPlace.curve curve).path ++ .ofString (": " ++ fault.message)
  | .noSupply curve =>
    (ConfigPlace.curve curve).path ++ .ofString ("." ++ supplyKey ++ " must be positive")
  | .unreadable path fault => .ofString (fault.message path)
  | .notYaml path => .ofString (path.text ++ ": invalid YAML")

namespace CurveConfig

def genesis (config : CurveConfig) : Except Rejection Genesis :=
  Genesis.ofLine config.line (.int 0) (.int config.supply) .free

def keys : List String :=
  [supplyKey, Term.baseDenominator.key, Term.baseNumerator.key, Term.slopeDenominator.key,
   Term.slopeNumerator.key]

def isKnownKey (key : Value) : Bool :=
  match key.text? with
  | some t => keys.any fun known => Text.ofString known == t
  | none => false

def integerField (name : Text) (body : List (Value × Value)) (key : String) :
    Except ConfigFault Int :=
  match (Value.field? body key).bind Value.int? with
  | some n => .ok n
  | none => .error (.notInteger name key)

def ofFields (name : Text) (body : List (Value × Value)) : Except ConfigFault CurveConfig := do
  let terms ← (Terms.ofFn id).traverse fun _ term => integerField name body term.key
  let line ← (PriceLine.ofValues (terms.map .int)).mapError (.badLine name)
  let supply ← integerField name body supplyKey
  if h : 0 < supply.toNat then .ok ⟨name, line, supply.toNat, h⟩ else .error (.noSupply name)

def ofBody (name : Text) (body : List (Value × Value)) : Except DocumentFault CurveConfig :=
  match Value.sort? ((body.map (·.1)).filter (!isKnownKey ·)) with
  | none => .error .unordered
  | some (key :: rest) => .error (.invalid (.unknownKeys name ((key :: rest).map Value.label)))
  | some [] =>
    let missing := keys.filter fun key => (Value.field? body key).isNone
    if missing ≠ [] then .error (.invalid (.missingKeys name missing))
    else (ofFields name body).mapError .invalid

def ofEntry (name body : Value) : Except DocumentFault CurveConfig :=
  match name.text? with
  | none => .error (.invalid .emptyName)
  | some name =>
    if name.hasInk then
      match body.dict? with
      | none => .error (.invalid (.notMapping (.curve name)))
      | some body => ofBody name body
    else .error (.invalid .emptyName)

end CurveConfig

namespace Config

def ofEntries : List (Value × Value) → Except DocumentFault Config
  | [] => .ok []
  | (name, body) :: rest => do
    let first ← CurveConfig.ofEntry name body
    let others ← ofEntries rest
    return first :: others

def ofValue (document : Value) : Except DocumentFault Config :=
  match document.dict? with
  | none => .error (.invalid (.notMapping .document))
  | some fields =>
    match (Value.field? fields "curves").bind Value.dict? with
    | none => .error (.invalid (.notMapping .curves))
    | some [] => .error (.invalid .noCurves)
    | some (entry :: rest) => ofEntries (entry :: rest)

def find? (config : Config) (name : Text) : Option CurveConfig :=
  List.find? (fun curve => curve.name == name) config

end Config

end BondingPool
