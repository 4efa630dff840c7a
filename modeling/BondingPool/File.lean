import BondingPool.Text.Basic
import BondingPool.Text.Quoted

/-!
# Files

The parts of a path stand between slashes; parts that are empty or a single dot do not count. A
path begins at the root when a slash comes first, and exactly two slashes there stay two. The
path without parts is a dot.

A file cannot be read when nothing is at its path, a part on the way is a file, the path ends at a
directory, or a name is too long.
-/

namespace BondingPool

structure Path where
  slashes : Nat
  parts : List (List Char)
  deriving DecidableEq, Repr

namespace Path

def isStep (part : List Char) : Bool := part ≠ [] && part ≠ ['.']

def rootSlashes (cs : List Char) : Nat :=
  match (cs.takeWhile (· == '/')).length with
  | 0 => 0
  | 2 => 2
  | _ => 1

def ofChars (cs : List Char) : Path := ⟨rootSlashes cs, (Text.split '/' cs).filter isStep⟩

def ofString (s : String) : Path := ofChars s.toList

def joined : List (List Char) → List Char
  | [] => []
  | [part] => part
  | part :: rest => part ++ '/' :: joined rest

def chars (p : Path) : List Char :=
  if p = ⟨0, []⟩ then ['.'] else List.replicate p.slashes '/' ++ joined p.parts

def hasNull (p : Path) : Bool := p.parts.any (·.contains '\x00')

def nullMessage : String := "embedded null byte"

def text (p : Path) : String := String.ofList p.chars

end Path

/-! ### Files that cannot be read -/

inductive FileFault
  | missing
  | notDirectory
  | directory
  | longName
  deriving DecidableEq, Repr

namespace FileFault

def code : FileFault → Nat
  | .missing => 2
  | .notDirectory => 20
  | .directory => 21
  | .longName => 36

def reason : FileFault → String
  | .missing => "No such file or directory"
  | .notDirectory => "Not a directory"
  | .directory => "Is a directory"
  | .longName => "File name too long"

def message (fault : FileFault) (path : Path) : String :=
  "[Errno " ++ toString fault.code ++ "] " ++ fault.reason ++ ": " ++ Text.quotedString path.text

end FileFault

end BondingPool
