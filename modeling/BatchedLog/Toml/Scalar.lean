import BatchedLog.Toml.Value

/-!
# TOML scalars

Numbers, truth values, dates and times. A reader takes as much of the text as belongs to its value
and gives back the rest, or `none` if the text does not start with one.
-/

namespace BatchedLog.Toml

/-- What was read and what is left. -/
abbrev Read (α : Type) := Option (α × List Char)

def isHexDigit (c : Char) : Bool :=
  c.isDigit || ('a' ≤ c && c ≤ 'f') || ('A' ≤ c && c ≤ 'F')

def digitValue (c : Char) : Nat :=
  if c.isDigit then c.toNat - '0'.toNat
  else if 'a' ≤ c ∧ c ≤ 'f' then c.toNat - 'a'.toNat + 10
  else c.toNat - 'A'.toNat + 10

def number (base : Nat) (ds : List Char) : Nat := ds.foldl (fun n c => n * base + digitValue c) 0

/-- Digits with single underscores between them; the underscores are left out. -/
def readDigits (isDigit : Char → Bool) : List Char → Read (List Char)
  | [] => none
  | c :: rest =>
    if !isDigit c then none
    else
      match rest with
      | '_' :: more => (readDigits isDigit more).map fun (ds, rest) => (c :: ds, rest)
      | d :: more =>
        if isDigit d then (readDigits isDigit (d :: more)).map fun (ds, rest) => (c :: ds, rest)
        else some ([c], d :: more)
      | [] => some ([c], [])

/-- A sign, if there is one; whether it is a minus. -/
def readSign : List Char → Bool × List Char
  | '+' :: rest => (false, rest)
  | '-' :: rest => (true, rest)
  | rest => (false, rest)

/-- A whole number after its sign; a zero stands alone. -/
def readWhole : List Char → Read (List Char)
  | '0' :: rest => some (['0'], rest)
  | rest => readDigits Char.isDigit rest

def integer? (negative : Bool) (n : Nat) : Option Int :=
  if negative then if n ≤ Nat.pow 2 63 then some (-(n : Int)) else none
  else if n < Nat.pow 2 63 then some n else none

def readBased (base : Nat) (isDigit : Char → Bool) (s : List Char) : Read Toml :=
  match readDigits isDigit s with
  | none => none
  | some (ds, rest) => (integer? false (number base ds)).map fun i => (.integer i, rest)

def readInteger : List Char → Read Toml
  | '0' :: 'x' :: rest => readBased 16 isHexDigit rest
  | '0' :: 'o' :: rest => readBased 8 (fun c => '0' ≤ c && c ≤ '7') rest
  | '0' :: 'b' :: rest => readBased 2 (fun c => c == '0' || c == '1') rest
  | s =>
    let (negative, s) := readSign s
    match readWhole s with
    | none => none
    | some (ds, rest) => (integer? negative (number 10 ds)).map fun i => (.integer i, rest)

/-- An exponent after its `e`. -/
def readExponent (s : List Char) : Read Int :=
  let (negative, s) := readSign s
  (readDigits Char.isDigit s).map fun (ds, rest) =>
    let e : Int := number 10 ds
    (if negative then -e else e, rest)

/-- A float may not be too large, though it may be too small: below all is minus infinity. -/
def float? (negative : Bool) (whole decimals : List Char) (e : Int) : Option Toml :=
  let x := Double.ofDecimal negative (number 10 (whole ++ decimals)) (e - decimals.length)
  if x = Double.infinity false then none else some (.float x)

def readFloat (s : List Char) : Read Toml :=
  let (negative, s) := readSign s
  match s with
  | 'i' :: 'n' :: 'f' :: rest => some (.float (.infinity negative), rest)
  | 'n' :: 'a' :: 'n' :: rest => some (.float (.nan negative), rest)
  | s =>
    match readWhole s with
    | some (whole, '.' :: rest) =>
      match readDigits Char.isDigit rest with
      | none => none
      | some (decimals, rest) =>
        match rest with
        | 'e' :: more | 'E' :: more =>
          (readExponent more).bind fun (e, rest) =>
            (float? negative whole decimals e).map fun v => (v, rest)
        | rest => (float? negative whole decimals 0).map fun v => (v, rest)
    | some (whole, 'e' :: rest) | some (whole, 'E' :: rest) =>
      (readExponent rest).bind fun (e, rest) =>
        (float? negative whole [] e).map fun v => (v, rest)
    | _ => none

/-- Exactly so many digits, with a value in bounds. -/
def readField (width lo hi : Nat) (s : List Char) : Read Nat :=
  let ds := s.take width
  if ds.length = width ∧ ds.all Char.isDigit then
    let n := number 10 ds
    if lo ≤ n ∧ n ≤ hi then some (n, s.drop width) else none
  else none

def expect (c : Char) : List Char → Option (List Char)
  | d :: rest => if d = c then some rest else none
  | [] => none

def isLeapYear (year : Nat) : Bool := year % 4 == 0 && (year % 100 != 0 || year % 400 == 0)

def daysIn (year month : Nat) : Nat :=
  if month = 2 then if isLeapYear year then 29 else 28
  else if month = 4 ∨ month = 6 ∨ month = 9 ∨ month = 11 then 30
  else 31

def readDate (s : List Char) : Option (Date × List Char) := do
  let (year, s) ← readField 4 0 9999 s
  let s ← expect '-' s
  let (month, s) ← readField 2 1 12 s
  let s ← expect '-' s
  let (day, s) ← readField 2 1 31 s
  if day ≤ daysIn year month then some (⟨year, month, day⟩, s) else none

/-- A fraction of a second in nanoseconds; digits after the ninth are dropped. -/
def readFraction (s : List Char) : Nat × List Char :=
  match s with
  | '.' :: rest =>
    let ds := rest.takeWhile Char.isDigit
    if ds.isEmpty then (0, s)
    else
      let kept := ds.take 9
      (number 10 kept * Nat.pow 10 (9 - kept.length), rest.dropWhile Char.isDigit)
  | _ => (0, s)

def readTime (s : List Char) : Option (Time × List Char) := do
  let (hour, s) ← readField 2 0 23 s
  let s ← expect ':' s
  let (minute, s) ← readField 2 0 59 s
  let s ← expect ':' s
  let (second, s) ← readField 2 0 60 s
  let (nanosecond, s) := readFraction s
  some (⟨hour, minute, second, nanosecond⟩, s)

/-- An offset if there is one; a sign must be followed by a whole one. -/
def readOffset (s : List Char) : Option (Option Offset × List Char) :=
  match s with
  | 'Z' :: rest | 'z' :: rest => some (some .utc, rest)
  | '+' :: _ | '-' :: _ => do
    let (negative, s) := readSign s
    let (hours, s) ← readField 2 0 23 s
    let s ← expect ':' s
    let (minutes, s) ← readField 2 0 59 s
    let n : Int := hours * 60 + minutes
    some (some (.minutes (if negative then -n else n)), s)
  | rest => some (none, rest)

/-- A date and the time that may follow it after a `T` or a space, or a time alone. -/
def readMoment (s : List Char) : Read Moment :=
  match readDate s with
  | some (d, rest) =>
    match rest with
    | c :: more =>
      if c = 'T' ∨ c = 't' ∨ c = ' ' then
        match readTime more with
        | some (t, rest) => (readOffset rest).map fun (offset, rest) => (.dateTime d t offset, rest)
        | none => some (.date d, rest)
      else some (.date d, rest)
    | [] => some (.date d, [])
  | none => (readTime s).map fun (t, rest) => (.time t, rest)

/-- A value that starts with a digit or a sign. -/
def readNumeric (s : List Char) : Read Toml :=
  match readMoment s with
  | some (m, rest) => some (.moment m, rest)
  | none => (readFloat s).or (readInteger s)

def readTruth : List Char → Read Toml
  | 't' :: 'r' :: 'u' :: 'e' :: rest => some (.bool true, rest)
  | 'f' :: 'a' :: 'l' :: 's' :: 'e' :: rest => some (.bool false, rest)
  | _ => none

end BatchedLog.Toml
