import BatchedLog.Text.Split

/-!
# Lines of an input

A line ends at a line feed, and a carriage return right before it goes with it. What stands after
the last line feed is a line if it is not empty. Lines are read up to the first that is not UTF-8.
-/

namespace BatchedLog.CommandLine

def lineFeed : UInt8 := 10

def carriageReturn : UInt8 := 13

def dropReturn (line : List UInt8) : List UInt8 :=
  if line.getLast? = some carriageReturn then line.dropLast else line

def rawLines (input : List UInt8) : List (List UInt8) :=
  let pieces := Text.split lineFeed input
  pieces.dropLast.map dropReturn ++ (pieces.getLast?.filter (!·.isEmpty)).toList

def decode? (line : List UInt8) : Option String := String.fromUTF8? ⟨line.toArray⟩

/-- The lines before the first that cannot be read, and whether all could. -/
def readable : List (List UInt8) → List String × Bool
  | [] => ([], true)
  | line :: rest =>
    match decode? line with
    | none => ([], false)
    | some s =>
      let (lines, all) := readable rest
      (s :: lines, all)

/-- The lines of an input, and whether it could be read to its end. -/
def linesOf (input : ByteArray) : List String × Bool := readable (rawLines input.data.toList)

end BatchedLog.CommandLine
