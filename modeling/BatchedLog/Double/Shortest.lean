import BatchedLog.Double.Basic

/-!
# Shortest decimals

Every finite float has shortest decimals: the fewest digits that still read back as it. Of the
decimals with that many digits the one nearest the float is taken; where two are equally near, the
`Tie` decides. Two layouts are written from the digits: plain places always, or plain places with an
exponent outside a range.
-/

namespace BatchedLog.Double

/-- Which of two equally near decimals is taken. -/
inductive Tie
  | toEven
  | up
  deriving DecidableEq, Repr

/-- The decimal `digits · 10 ^ exponent`. -/
structure Decimal where
  digits : Nat
  exponent : Int
  deriving DecidableEq, Repr

/-- The reals that round to `m · 2 ^ q`, as quarters of units: `low` to `high` over `den`, with
`value` between them. The ends belong to it when `closed`. -/
structure Interval where
  low : Nat
  value : Nat
  high : Nat
  den : Nat
  closed : Bool

/-- Below a power of two the floats lie twice as close as above it. -/
def interval (m : Nat) (q : Int) : Interval :=
  let scale := Nat.pow 2 (q - 2).toNat
  let below := if m = Nat.pow 2 52 ∧ q > -1074 then 1 else 2
  { low := (4 * m - below) * scale
    value := 4 * m * scale
    high := (4 * m + 2) * scale
    den := Nat.pow 2 (2 - q).toNat
    closed := m % 2 == 0 }

/-- The greatest `k` with `10 ^ k ≤ num / den`, searched upwards from a lower bound. -/
def leadingExponent (num den : Nat) : Int :=
  let atLeast (k : Int) : Bool := den * Nat.pow 10 k.toNat ≤ num * Nat.pow 10 (-k).toNat
  -- 30103 / 100000 is a little above log 2 / log 10
  let bits : Int := (num.log2 : Int) - den.log2
  let start := (bits - 1) * 30103 / 100000 - 2
  (List.range 6).foldl (fun k _ => if atLeast (k + 1) then k + 1 else k) start

/-- Whether `d · 10 ^ e` lies in the interval. -/
def Interval.contains (i : Interval) (d : Nat) (e : Int) : Bool :=
  let x := d * Nat.pow 10 e.toNat * i.den
  let unit := Nat.pow 10 (-e).toNat
  if i.closed then i.low * unit ≤ x && x ≤ i.high * unit
  else i.low * unit < x && x < i.high * unit

/-- The better of the two multiples of `10 ^ e` around the value, if one lies in the interval. -/
def Interval.onGrid (i : Interval) (tie : Tie) (e : Int) : Option Decimal :=
  let num := i.value * Nat.pow 10 (-e).toNat
  let den := i.den * Nat.pow 10 e.toNat
  let d := num / den
  let r := num % den
  let lower := i.contains d e && d != 0
  let upper := i.contains (d + 1) e
  let pickUpper : Bool :=
    if 2 * r = den then (match tie with | .up => true | .toEven => d % 2 == 1)
    else decide (2 * r > den)
  if lower && upper then some ⟨if pickUpper then d + 1 else d, e⟩
  else if lower then some ⟨d, e⟩
  else if upper then some ⟨d + 1, e⟩
  else none

/-- Without trailing zeros; a float has at most 17 digits to lose. -/
def Decimal.normal (d : Decimal) : Decimal :=
  (List.range 17).foldl
    (fun d _ => if d.digits % 10 = 0 ∧ d.digits ≠ 0 then ⟨d.digits / 10, d.exponent + 1⟩ else d) d

/-- The shortest decimal of `m · 2 ^ q` for `m > 0`; seventeen digits always suffice. -/
def shortest (tie : Tie) (m : Nat) (q : Int) : Decimal :=
  let i := interval m q
  let k := leadingExponent i.value i.den
  let found := (List.range 17).findSome? fun (n : Nat) => i.onGrid tie (k - n)
  (found.getD ⟨m, q⟩).normal

/-- The digits with a point after `10 ^ 0`, and at least one digit on either side of it. -/
def Decimal.plain (d : Decimal) : String :=
  let ds := Nat.toDigits 10 d.digits
  if d.exponent ≥ 0 then
    String.ofList (ds ++ List.replicate d.exponent.toNat '0') ++ ".0"
  else
    let places := (-d.exponent).toNat
    if ds.length > places then
      String.ofList (ds.take (ds.length - places)) ++ "." ++
        String.ofList (ds.drop (ds.length - places))
    else "0." ++ String.ofList (List.replicate (places - ds.length) '0' ++ ds)

/-- One digit before the point, none after it when there is but one, and a signed exponent. -/
def Decimal.scientific (d : Decimal) : String :=
  let ds := Nat.toDigits 10 d.digits
  let e : Int := d.exponent + ds.length - 1
  let tail := if ds.length > 1 then "." ++ String.ofList (ds.drop 1) else ""
  let sign := if e < 0 then "-" else "+"
  String.ofList (ds.take 1) ++ tail ++ "e" ++ sign ++ toString e.natAbs

def withSign (negative : Bool) (s : String) : String := if negative then "-" ++ s else s

/-- Plain places for a first digit between `10 ^ -5` and `10 ^ 15`, an exponent beyond; ties to
even. Nothing is written for what is not a number. -/
def compactText? (x : Double) : Option String :=
  match x.parts with
  | .finite negative m q =>
    if m = 0 then some (withSign negative "0.0")
    else
      let d := shortest .toEven m q
      let first : Int := d.exponent + (Nat.toDigits 10 d.digits).length - 1
      some (withSign negative (if -5 ≤ first ∧ first ≤ 15 then d.plain else d.scientific))
  | _ => none

/-- Plain places whatever the size; ties up. -/
def plainText (x : Double) : String :=
  match x.parts with
  | .nan => "NaN"
  | .infinite negative => withSign negative "inf"
  | .finite negative m q =>
    withSign negative (if m = 0 then "0.0" else (shortest .up m q).plain)

end BatchedLog.Double
