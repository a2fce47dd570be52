import BatchedLog.Double.Arithmetic

/-!
# Numbers in scientific notation

A JSON number is kept as far as its leading digits make a 64-bit number, together with the power of
ten that goes with them. A float is read off this in several roundings: the digits, the power of
ten, and their product or quotient. It is therefore close to the number that was written, but not
always the nearest float.
-/

namespace BatchedLog.Json

/-- The number `digits · 10 ^ exponent`. -/
structure Scientific where
  digits : Nat
  exponent : Int
  deriving DecidableEq, Repr

def digitValue (d : Char) : Nat := d.toNat - '0'.toNat

namespace Scientific

/-- Put digits behind `n` as long as it stays below `2 ^ 64`. The first one that does not fit is
left over with all that follow it. -/
def takeDigits (n : Nat) : List Char → Nat × List Char
  | [] => (n, [])
  | d :: ds =>
    let next := n * 10 + digitValue d
    if next < UInt64.size then takeDigits next ds else (n, d :: ds)

/-- Digits before the point; those left over still count as places. -/
def ofWhole (ds : List Char) : Scientific :=
  let (n, left) := takeDigits 0 ds
  ⟨n, left.length⟩

/-- Digits behind the point; those left over are dropped. -/
def withDecimals (x : Scientific) (ds : List Char) : Scientific :=
  let (n, left) := takeDigits x.digits ds
  ⟨n, x.exponent - ((ds.length : Int) - left.length)⟩

/-- One order of magnitude up or down for each unit of `e`. -/
def shift (x : Scientific) (e : Int) : Scientific := { x with exponent := x.exponent + e }

/-- The float that is read for a number, infinite for one that is too large. The largest power of
ten among the floats is `10 ^ 308`: more than that makes any number too large, and less than its
inverse takes two divisions. -/
def toDouble (negative : Bool) (x : Scientific) : Double :=
  let f := Double.ofNat negative x.digits
  let e := x.exponent
  if x.digits = 0 then .zero negative
  else if e > 308 then .infinity negative
  else if 0 ≤ e then f.mul (.tenTo e.toNat)
  else if -308 ≤ e then f.div (.tenTo (-e).toNat)
  else if -616 ≤ e then (f.div (.tenTo 308)).div (.tenTo (-e - 308).toNat)
  else .zero negative

end Scientific

end BatchedLog.Json
