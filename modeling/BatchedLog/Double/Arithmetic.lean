import BatchedLog.Double.Basic

/-!
# Products and quotients of floats

The product or quotient of two finite floats is taken exactly and then rounded once, to the nearest
float with ties to the even fraction.
-/

namespace BatchedLog

namespace Double

/-- The nearest float to `num / den · 2 ^ q`. -/
def ofScaled (negative : Bool) (num den : Nat) (q : Int) : Double :=
  ofRatio negative (num * Nat.pow 2 q.toNat) (den * Nat.pow 2 (-q).toNat)

def ofNat (negative : Bool) (n : Nat) : Double := ofRatio negative n 1

def mul (x y : Double) : Double :=
  let negative := x.isNegative != y.isNegative
  match x.parts, y.parts with
  | .nan, _ | _, .nan => nan false
  | .infinite _, .infinite _ => infinity negative
  | .infinite _, .finite _ m _ | .finite _ m _, .infinite _ =>
    if m = 0 then nan false else infinity negative
  | .finite _ m q, .finite _ n r => ofScaled negative (m * n) 1 (q + r)

def div (x y : Double) : Double :=
  let negative := x.isNegative != y.isNegative
  match x.parts, y.parts with
  | .nan, _ | _, .nan | .infinite _, .infinite _ => nan false
  | .infinite _, .finite .. => infinity negative
  | .finite .., .infinite _ => zero negative
  | .finite _ m q, .finite _ n r =>
    if n = 0 then if m = 0 then nan false else infinity negative
    else ofScaled negative m n (q - r)

/-- The nearest float to `10 ^ n`. -/
def tenTo (n : Nat) : Double := ofDecimal false 1 n

end Double

end BatchedLog
