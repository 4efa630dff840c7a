import BondingPool.Quote.Session

/-!
# The command

Reads the configuration that the options name, or the shipped one, and the orders of a replay
from standard input; writes the records to standard output and everything else to standard
error. The exit code is 2 for arguments that are refused and 1 for a session that stops or breaks.
-/

namespace BondingPool.Quote

def shippedPath : Path := .ofString "configs/linear_curves.yaml"

def fileFault : IO.Error → FileFault
  | .inappropriateType _ code _ => if code = 21 then .directory else .notDirectory
  | .invalidArgument _ _ _ => .longName
  | _ => .missing

def readSource (options : Options) : IO Source := do
  match options.config with
  | none => return ⟨shippedPath, .ok Config.shipped⟩
  | some .nothing => return ⟨shippedPath, .ok Config.shipped⟩
  | some (.value given) =>
    let path := Path.ofString given
    try return ⟨path, .ok (← IO.FS.readFile path.text).toList⟩
    catch e => return ⟨path, .error (fileFault e)⟩

def Ending.report : Ending → Option String × UInt32
  | .exit code => (none, UInt32.ofNat code)
  | .stopped message => (some (String.ofList (message.filterMap CodePoint.toChar?)), 1)
  | .broken reason => (some reason.message, 1)
  | .unloaded (.noValue cause) => (some cause.message, 1)
  | .unloaded _ => (some "unknown keys cannot be put in order", 1)
  | .pathless => (some Path.nullMessage, 1)
  | .missing blank => (some blank.message, 1)

def usage : String := "usage: --curve CURVE [--amount AMOUNT | --replay] [option ...]"

def command (arguments : List String) : IO UInt32 := do
  match Request.ofArguments arguments with
  | .refused =>
    IO.eprintln usage
    return 2
  | .help =>
    IO.println usage
    return 0
  | .quote options =>
    let source ← readSource options
    let input ← if options.replay then (← IO.getStdin).readToEnd else pure ""
    let s := session options source input.toList
    for line in s.log options do
      IO.eprintln (String.ofList (line.filterMap CodePoint.toChar?))
    for line in s.output do
      IO.println line
    let (message, code) := s.ending.report
    match message with
    | some text => IO.eprintln text
    | none => pure ()
    return code

end BondingPool.Quote

def main (arguments : List String) : IO UInt32 := BondingPool.Quote.command arguments
