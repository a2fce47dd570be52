import BatchedLog.Double.Basic

/-!
# TOML values

Tables keep their keys in order. A date or time is kept in its normal form: upper-case `T` and `Z`,
no trailing zeros in a fraction of at most nine digits, and an offset of zero without a sign.
-/

namespace BatchedLog

structure Toml.Date where
  year : Nat
  month : Nat
  day : Nat
  deriving DecidableEq, Repr

structure Toml.Time where
  hour : Nat
  minute : Nat
  second : Nat
  nanosecond : Nat
  deriving DecidableEq, Repr

inductive Toml.Offset
  | utc
  | minutes (n : Int)
  deriving DecidableEq, Repr

/-- A date, a time or both; only both may have an offset. -/
inductive Toml.Moment
  | date (d : Toml.Date)
  | time (t : Toml.Time)
  | dateTime (d : Toml.Date) (t : Toml.Time) (offset : Option Toml.Offset)
  deriving DecidableEq, Repr

inductive Toml
  | string (s : String)
  | integer (i : Int)
  | float (x : Double)
  | bool (b : Bool)
  | moment (m : Toml.Moment)
  | array (items : List Toml)
  | table (entries : List (String × Toml))
  deriving Repr, Inhabited

namespace Toml

/-- Decimal digits with zeros in front up to `width`. -/
def padded (width n : Nat) : String :=
  let ds := Nat.toDigits 10 n
  String.ofList (List.replicate (width - ds.length) '0' ++ ds)

def Date.text (d : Date) : String :=
  padded 4 d.year ++ "-" ++ padded 2 d.month ++ "-" ++ padded 2 d.day

def Time.text (t : Time) : String :=
  let fraction :=
    if t.nanosecond = 0 then ""
    else
      let ds := (padded 9 t.nanosecond).toList
      "." ++ String.ofList (ds.reverse.dropWhile (· = '0')).reverse
  padded 2 t.hour ++ ":" ++ padded 2 t.minute ++ ":" ++ padded 2 t.second ++ fraction

def Offset.text : Offset → String
  | .utc => "Z"
  | .minutes n =>
    (if n < 0 then "-" else "+") ++ padded 2 (n.natAbs / 60) ++ ":" ++ padded 2 (n.natAbs % 60)

def Moment.text : Moment → String
  | .date d => d.text
  | .time t => t.text
  | .dateTime d t offset => d.text ++ "T" ++ t.text ++ ((offset.map Offset.text).getD "")

end Toml

end BatchedLog
