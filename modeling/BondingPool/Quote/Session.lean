import BondingPool.Config
import BondingPool.Yaml.Document
import BondingPool.Pool
import BondingPool.Fixed
import BondingPool.File
import BondingPool.Quote.Options
import BondingPool.Quote.Order

/-!
# Sessions

A session loads a configuration, opens the pool of one curve or sets its balances, and then
either answers one order or replays all orders of its input, each against the pool that the
accepted ones before it left. It ends with an exit code, with a message that stops it, or with a
fault that it has no message for: a configured supply that is no word, an accepted trade that
takes a balance out of range, a configuration whose unknown keys have no order or whose text has a
scalar without a value, a path with a null character, or a flag that was given nothing and whose
value is needed.

The text of a configuration file is read as a YAML document first; faults of the document's
content come after faults of its form. One configuration with two curves comes with the library.

A verbose session writes notes about its course. A trade that is sized leaves a note when it is
cut short, and then one when it moves nothing or one when it is filled at or above the floor; a
trade that is refused earlier leaves none.
-/

namespace BondingPool

namespace Config

/-! ### Configurations as YAML text -/

def ofYaml (path : Path) (text : List Char) : Except DocumentFault Config :=
  match Yaml.parse text with
  | .ok document => ofValue document
  | .error .malformed => .error (.invalid (.notYaml path))
  | .error (.scalar cause) => .error (.noValue cause)

def shippedLines : List String :=
  ["# Linear price bonding curves: price(b) = slope * b + r0",
   "# Amounts are in smallest token units (8 decimals for both tokens below).",
   "curves:",
   "  rly_cc:",
   "    slope_numerator: 1",
   "    slope_denominator: 200000000",
   "    r0_numerator: 150",
   "    r0_denominator: 3",
   "    initial_bonded_balance: 50000000000",
   "",
   "  taki_low_slope:",
   "    slope_numerator: 37",
   "    slope_denominator: 1400000000000000000",
   "    r0_numerator: 7",
   "    r0_denominator: 2",
   "    initial_bonded_balance: 1000000000000000000"]

def shipped : List Char := shippedLines.flatMap fun line => line.toList ++ ['\n']

end Config

namespace Quote

/-! ### Notes -/

inductive Note
  | loaded (count : Nat) (path : Path)
  | curve (name : Text) (identity : String)
  | supplyCap (wanted : Nat) (sizing : Sizing)
  | positionCap (sold : Fixed) (sizing : Sizing)
  | nothingMoved (direction : Direction) (offered : Int)
  | filled (fill : Fill) (offered : Int)
  | settled (identity : String) (direction : Direction) (collateral bonded : Nat)
  deriving DecidableEq, Repr

def pricing : String := "DEBUG bondcurve.core.linear_price: "

def Note.text : Note → Text
  | .loaded count path =>
    .ofString (s!"DEBUG bondcurve.integration.config: loaded {count} curve(s) from " ++ path.text)
  | .curve name identity =>
    .ofString "DEBUG curve_quote: curve " ++ name ++ .ofString (" id=" ++ identity)
  | .supplyCap wanted s =>
    .ofString (pricing ++ s.direction.key ++ s!" capped: requested_out={wanted} available=" ++
      toString s.received ++ " charged=" ++ toString s.paid ++ " of " ++ toString s.offered)
  | .positionCap sold s =>
    .ofString (pricing ++ s.direction.key ++ " capped: offered=" ++ toString s.offered ++
      " cumulative_sold=" ++ sold.decimal)
  | .nothingMoved direction offered =>
    .ofString (pricing ++ direction.key ++ s!" rejected: amount_in={offered} rounds to zero output")
  | .filled fill offered =>
    .ofString ("DEBUG bondcurve.core.curve_state: " ++ fill.direction.key ++ " trade: in=" ++
      toString fill.paid ++ s!"/{offered} out=" ++ toString fill.received ++ " capped=" ++
      (if fill.capped then "True" else "False"))
  | .settled identity direction collateral bonded =>
    .ofString ("DEBUG bondcurve.state.pools: pool " ++ identity ++ " after " ++ direction.key ++
      s!": collateral={collateral} bonded={bonded}")

def sizingNotes (s : Sizing) (floor : Int) : List Note :=
  let cut := match s.cap with
    | none => []
    | some (.supply wanted) => [.supplyCap wanted s]
    | some (.position sold) => [.positionCap sold s]
  let outcome := match s.fill with
    | .error _ => [.nothingMoved s.direction s.offered]
    | .ok fill => if fill.received < floor then [] else [.filled fill s.offered]
  cut ++ outcome

def quoteNotes (pool : Pool) (direction : Direction) (offered floor : Int) : List Note :=
  match Word.ofInt? offered, Word.ofInt? floor with
  | some _, some _ =>
    if pool.curve.fees.isFree ∧ offered ≠ 0 then
      match pool.curve.line.size direction pool.collateral.val pool.bonded.val offered with
      | .ok s => sizingNotes s floor
      | .error _ => []
    else []
  | _, _ => []

def settledNote (direction : Direction) (next : Pool) : Note :=
  .settled (String.ofList (next.curve.line.identity.toList.take 10)) direction
    next.collateral.val next.bonded.val

/-! ### Courses of a session -/

/-- A configuration file: where it is said to be, and its text if it could be read. -/
structure Source where
  path : Path
  text : Except FileFault (List Char)

inductive Ending
  | exit (code : Nat)
  | stopped (message : Text)
  | broken (reason : Rejection)
  | unloaded (fault : DocumentFault)
  | pathless
  | missing (blank : Blank)
  deriving DecidableEq, Repr

structure Session where
  records : List Record
  notes : List Note
  ending : Ending

def Session.stop (notes : List Note) (message : Text) : Session := ⟨[], notes, .stopped message⟩

def Session.lacking (notes : List Note) (blank : Blank) : Session := ⟨[], notes, .missing blank⟩

structure Run where
  records : List Record
  notes : List Note
  broken : Option Rejection

def Run.after (record : Record) (notes : List Note) (run : Run) : Run :=
  ⟨record :: run.records, notes ++ run.notes, run.broken⟩

def standing (order : Order) (pool : Pool) : Standing := ⟨order.line, pool.collateral, pool.bonded⟩

def replay (pool : Pool) : List Order → Run
  | [] => ⟨[], [], none⟩
  | order :: rest =>
    let notes := quoteNotes pool order.direction order.amount 0
    match pool.quote order.direction order.amount 0 with
    | .error reason => (replay pool rest).after ⟨.error reason, some (standing order pool)⟩ notes
    | .ok fill =>
      match pool.settle fill with
      | .error reason => ⟨[], notes, some reason⟩
      | .ok next =>
        (replay next rest).after ⟨.ok fill, some (standing order next)⟩
          (notes ++ [settledNote fill.direction next])

def Record.isRejected (r : Record) : Bool :=
  match r.answer with
  | .ok _ => false
  | .error _ => true

def replaySession (notes : List Note) (pool : Pool) (input : List Char) : Session :=
  let (orders, fault) := ordersOf input
  let run := replay pool orders
  let ending := match run.broken, fault with
    | some reason, _ => .broken reason
    | none, some fault => .stopped (.ofString ("replay error: " ++ fault.message))
    | none, none => .exit (if run.records.any Record.isRejected then 1 else 0)
  ⟨run.records, notes ++ run.notes, ending⟩

def answerSession (notes : List Note) (pool : Pool) (direction : Direction) (amount floor : Int) :
    Session :=
  let record : Record := ⟨pool.quote direction amount floor, none⟩
  ⟨[record], notes ++ quoteNotes pool direction amount floor,
    .exit (if record.isRejected then 1 else 0)⟩

def offerSession (notes : List Note) (pool : Pool) (direction : Direction)
    (amount floor : Given Int) : Session :=
  -- the floor is looked at only when the amount is one
  match amount, floor with
  | .nothing, _ => .lacking notes (.amount .offered)
  | .value amount, .value floor => answerSession notes pool direction amount floor
  | .value amount, .nothing =>
    match Word.ofInt? amount with
    | some _ => .lacking notes (.amount .floor)
    | none => answerSession notes pool direction amount 0

def singleSession (notes : List Note) (pool : Pool) (options : Options) : Session :=
  match options.amount, options.direction with
  | none, _ => .stop notes (.ofString "--amount is required unless --replay is given")
  | some _, .nothing => .lacking notes .direction
  | some amount, .value word =>
    match readDirection word.toList with
    | .error fault => .stop notes (.ofString fault.message)
    | .ok direction => offerSession notes pool direction amount options.floor

def Given.balance (role : AmountRole) (own : Word) : Option (Given Int) → Except Ending Word
  | none => .ok own
  | some .nothing => .error (.missing (.amount role))
  | some (.value n) => (admitAmount role n).mapError fun reason =>
    .stopped (.ofString ("invalid balances: " ++ reason.message))

def withBalances (pool : Pool) (options : Options) : Except Ending Pool := do
  let collateral ← Given.balance .collateral pool.collateral options.collateral
  let bonded ← Given.balance .bonded pool.bonded options.bonded
  return ⟨pool.curve, collateral, bonded⟩

def insertName (name : Text) : List Text → List Text
  | [] => [name]
  | other :: rest => if other < name then other :: insertName name rest else name :: other :: rest

def unknownCurve (name : String) (config : Config) : Text :=
  let names := (config.map (·.name)).foldr insertName []
  .ofString ("unknown curve: " ++ name ++ " (available: ") ++ Text.commas names ++ .ofString ")"

def curveSession (notes : List Note) (curve : CurveConfig) (options : Options)
    (input : List Char) : Session :=
  match curve.genesis with
  | .error reason => ⟨[], notes, .broken reason⟩
  | .ok genesis =>
    match withBalances genesis.pool options with
    | .error ending => ⟨[], notes, ending⟩
    | .ok pool =>
      let notes := notes ++ [.curve curve.name pool.curve.line.identity]
      if options.replay then replaySession notes pool input else singleSession notes pool options

def Source.load (source : Source) : Except DocumentFault Config :=
  match source.text with
  | .error fault => .error (.invalid (.unreadable source.path fault))
  | .ok text => Config.ofYaml source.path text

def loadedSession (config : Config) (options : Options) (source : Source) (input : List Char) :
    Session :=
  let notes := [.loaded config.length source.path]
  match options.curve with
  | .nothing => .lacking notes .curve
  | .value name =>
    match config.find? (.ofString name) with
    | none => .stop notes (unknownCurve name config)
    | some curve => curveSession notes curve options input

/-- The session of a configuration that is loaded in some way. -/
def sessionOn (load : Source → Except DocumentFault Config) (options : Options) (source : Source)
    (input : List Char) : Session :=
  if options.config = some .nothing then .lacking [] .path
  else if source.path.hasNull then ⟨[], [], .pathless⟩
  else match load source with
    | .error (.invalid fault) => .stop [] (.ofString "config error: " ++ fault.message)
    | .error fault => ⟨[], [], .unloaded fault⟩
    | .ok config => loadedSession config options source input

def session : Options → Source → List Char → Session := sessionOn Source.load

def Session.output (s : Session) : List String := s.records.map Record.text

def lineFeed : CodePoint := .ofChar '\n'

def Session.log (s : Session) (options : Options) : List Text :=
  if options.verbose then
    (Text.lines Fin.val Text.isTextBreak (s.notes.flatMap fun note => note.text ++ [lineFeed])).dropLast
  else []

end Quote

end BondingPool
