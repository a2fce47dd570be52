/-!
# Socket addresses

The textual form of an internet address with a port: four decimal octets, or up to eight
hexadecimal groups in brackets, of which one run may be left out as `::`, the last two may be
written as octets, and a numeric scope may follow.
-/

namespace BatchedLog

inductive SocketAddress
  | v4 (octets : List Nat) (port : Nat)
  | v6 (groups : List Nat) (scope port : Nat)
  deriving DecidableEq, Repr

namespace SocketAddress

def digit? (base : Nat) (c : Char) : Option Nat :=
  let value :=
    if c.isDigit then some (c.toNat - '0'.toNat)
    else if 'a' ≤ c ∧ c ≤ 'f' then some (c.toNat - 'a'.toNat + 10)
    else if 'A' ≤ c ∧ c ≤ 'F' then some (c.toNat - 'A'.toNat + 10)
    else none
  value.filter (· < base)

def readChar (c : Char) : List Char → Option (List Char)
  | d :: rest => if d = c then some rest else none
  | [] => none

/-- All digits that follow, at most `width` of them if that is given, with a value up to `top`. -/
def readNumber (base : Nat) (width : Option Nat) (leadingZero : Bool) (top : Nat) (s : List Char) :
    Option (Nat × List Char) :=
  let ds := s.takeWhile fun c => (digit? base c).isSome
  let n := ds.foldl (fun n c => n * base + (digit? base c).getD 0) 0
  if ds.isEmpty ∨ width.any (· < ds.length) ∨ n > top then none
  else if !leadingZero ∧ ds.head? = some '0' ∧ ds.length > 1 then none
  else some (n, s.drop ds.length)

def readOctet (s : List Char) : Option (Nat × List Char) := readNumber 10 (some 3) false 255 s

def readOctets (s : List Char) : Option (List Nat × List Char) := do
  let (a, s) ← readOctet s
  let s ← readChar '.' s
  let (b, s) ← readOctet s
  let s ← readChar '.' s
  let (c, s) ← readOctet s
  let s ← readChar '.' s
  let (d, s) ← readOctet s
  some ([a, b, c, d], s)

def readPort (s : List Char) : Option (Nat × List Char) := do
  let s ← readChar ':' s
  readNumber 10 none true 65535 s

/-- Groups after colons, `room` at most; whether the last two were written as octets. -/
def readGroups (first : Bool) : Nat → List Char → List Nat × Bool × List Char
  | 0, s => ([], false, s)
  | room + 1, s =>
    match if first then some s else readChar ':' s with
    | none => ([], false, s)
    | some inner =>
      match if room ≥ 1 then readOctets inner else none with
      | some ([a, b, c, d], rest) => ([a * 256 + b, c * 256 + d], true, rest)
      | _ =>
        match readNumber 16 (some 4) true 65535 inner with
        | none => ([], false, s)
        | some (g, rest) =>
          let (gs, octets, rest) := readGroups false room rest
          (g :: gs, octets, rest)

def readAddress6 (s : List Char) : Option (List Nat × List Char) :=
  let (head, octets, s) := readGroups true 8 s
  if head.length = 8 then some (head, s)
  else if octets then none
  else do
    let s ← readChar ':' s
    let s ← readChar ':' s
    let (tail, _, s) := readGroups true (7 - head.length) s
    some (head ++ List.replicate (8 - head.length - tail.length) 0 ++ tail, s)

def readScope (s : List Char) : Nat × List Char :=
  match (readChar '%' s).bind (readNumber 10 none true (UInt32.size - 1)) with
  | some (scope, rest) => (scope, rest)
  | none => (0, s)

def read4 (s : List Char) : Option (SocketAddress × List Char) := do
  let (octets, s) ← readOctets s
  let (port, s) ← readPort s
  some (.v4 octets port, s)

def read6 (s : List Char) : Option (SocketAddress × List Char) := do
  let s ← readChar '[' s
  let (groups, s) ← readAddress6 s
  let (scope, s) := readScope s
  let s ← readChar ']' s
  let (port, s) ← readPort s
  some (.v6 groups scope port, s)

def parse (text : String) : Option SocketAddress :=
  match (read4 text.toList).or (read6 text.toList) with
  | some (a, []) => some a
  | _ => none

end SocketAddress

end BatchedLog
