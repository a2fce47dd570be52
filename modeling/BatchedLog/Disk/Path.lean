import BatchedLog.Text.Split

/-!
# Paths

A path is read in two ways. The file tree walks its names one by one, where empty names count for
nothing but a trailing one, and `.` and `..` are walked like names. What lies above a path is taken
on its *parts*, from which empty names and inner `.` are left out; a path above is the text up to
the end of one part, with whatever slashes and dots stand before it.
-/

namespace BatchedLog

structure Path where
  text : String
  deriving DecidableEq, Repr

namespace Path

def isAbsolute (p : Path) : Bool := p.text.toList.head? == some '/'

def names (p : Path) : List String :=
  ((Text.split '/' p.text.toList).filter (! ·.isEmpty)).map String.ofList

/-- Whether the path ends in a slash. -/
def wantsDirectory (p : Path) : Bool := p.text.toList.getLast? == some '/'

def hasNul (p : Path) : Bool := p.text.toList.any (· == '\x00')

/-- A dot counts as a part only at the very front of a relative path. -/
def isPart (first : Bool) (name : List Char) : Bool :=
  !name.isEmpty && (first || name != ['.'])

/-- How long the text is up to the end of each part among `names`, the first of which starts at
`start`. -/
def partEnds (start : Nat) (first : Bool) : List (List Char) → List Nat
  | [] => []
  | name :: names =>
    let ends := partEnds (start + name.length + 1) false names
    if isPart first name then (start + name.length) :: ends else ends

/-- The path as far as its first `n` characters. -/
def upTo (p : Path) (n : Nat) : Path := ⟨String.ofList (p.text.toList.take n)⟩

/-- How long the text is up to the end of each part, the last part first. -/
def ends (p : Path) : List Nat := (partEnds 0 true (Text.split '/' p.text.toList)).reverse

end Path

end BatchedLog
