/-!
# Binary floating point

A 64-bit float is kept as its bits and taken apart in exact arithmetic: every finite one is
`± m · 2 ^ q` for a natural `m` and an integer `q`.
-/

namespace BatchedLog

structure Double where
  bits : UInt64
  deriving DecidableEq, Repr, Inhabited

namespace Double

/-- What the bits stand for. -/
inductive Parts
  | nan
  | infinite (negative : Bool)
  | finite (negative : Bool) (m : Nat) (q : Int)
  deriving DecidableEq, Repr

def isNegative (x : Double) : Bool := x.bits >>> 63 == 1

def parts (x : Double) : Parts :=
  let fraction : Nat := x.bits.toNat % Nat.pow 2 52
  let exponent : Nat := x.bits.toNat / Nat.pow 2 52 % Nat.pow 2 11
  if exponent = 2047 then
    if fraction = 0 then .infinite x.isNegative else .nan
  else if exponent = 0 then .finite x.isNegative fraction (-1074)
  else .finite x.isNegative (Nat.pow 2 52 + fraction) ((exponent : Int) - 1075)

def isFinite (x : Double) : Bool :=
  match x.parts with
  | .finite .. => true
  | _ => false

/-- Sign bit, biased exponent and fraction put together. -/
def assemble (negative : Bool) (exponent fraction : Nat) : Double :=
  ⟨UInt64.ofNat ((if negative then Nat.pow 2 63 else 0) + exponent * Nat.pow 2 52 + fraction)⟩

def infinity (negative : Bool) : Double := assemble negative 2047 0

def nan (negative : Bool) : Double := assemble negative 2047 (Nat.pow 2 51)

def zero (negative : Bool) : Double := assemble negative 0 0

/-- `n / d` to the nearest integer, a half to the even one. -/
def divNearest (n d : Nat) : Nat :=
  let q := n / d
  let r := n % d
  if 2 * r > d || (2 * r == d && q % 2 == 1) then q + 1 else q

/-- The nearest float to `num / den`, a tie to the even fraction; too large is infinite. -/
def ofRatio (negative : Bool) (num den : Nat) : Double :=
  if num = 0 then zero negative
  else
    -- the least `q ≥ -1074` with `num / den < 2 ^ (53 + q)`
    let guess : Int := (num.log2 : Int) - den.log2 - 53
    let fits (q : Int) : Bool :=
      num * Nat.pow 2 (-(53 + q)).toNat < den * Nat.pow 2 (53 + q).toNat
    let q := if fits guess then guess else if fits (guess + 1) then guess + 1 else guess + 2
    let q := max q (-1074)
    let m := divNearest (num * Nat.pow 2 (-q).toNat) (den * Nat.pow 2 q.toNat)
    let (m, q) := if m = Nat.pow 2 53 then (Nat.pow 2 52, q + 1) else (m, q)
    if m < Nat.pow 2 52 then assemble negative 0 m
    else if q + 1075 ≥ 2047 then infinity negative
    else assemble negative (q + 1075).toNat (m - Nat.pow 2 52)

/-- The nearest float to `m · 10 ^ e`. Beyond 400 orders of magnitude the answer needs no
arithmetic. -/
def ofDecimal (negative : Bool) (m : Nat) (e : Int) : Double :=
  if m = 0 then zero negative
  else
    let digits : Int := (Nat.toDigits 10 m).length
    if digits + e > 400 then infinity negative
    else if digits + e < -400 then zero negative
    else ofRatio negative (m * Nat.pow 10 e.toNat) (Nat.pow 10 (-e).toNat)

end Double

end BatchedLog
