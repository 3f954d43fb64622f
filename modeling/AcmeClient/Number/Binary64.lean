/-!
Double precision numbers. A finite number is a sign and a magnitude, and magnitudes are numbered in
increasing order, so `units`, the magnitude in steps of the least positive number, is exact in `Nat`
and every operation rounds a quotient of such steps once.
-/

namespace AcmeClient

/-- The quotient of two numbers, a half going to the even neighbour. -/
def roundQuotient (num den : Nat) : Nat :=
  let q := num / den
  let r := num % den
  if 2 * r < den then q else if den < 2 * r then q + 1 else q + q % 2

abbrev magnitudeCount : Nat := 2047 * Nat.pow 2 52

inductive Binary64 where
  | nan
  | infinite (negative : Bool)
  | finite (negative : Bool) (magnitude : Fin magnitudeCount)
deriving DecidableEq, Repr

namespace Binary64

def units (magnitude : Nat) : Nat :=
  let exponent := magnitude / Nat.pow 2 52
  if exponent = 0 then magnitude
  else (Nat.pow 2 52 + magnitude % Nat.pow 2 52) * Nat.pow 2 (exponent - 1)

abbrev one : Nat := Nat.pow 2 1074

/-- The magnitude nearest to `num / den` steps, a tie going to the one with an even last bit. It may
lie above all finite magnitudes. -/
def nearest (num den : Nat) : Nat :=
  let exponent := Nat.log2 (num / den) - 52
  exponent * Nat.pow 2 52 + roundQuotient num (den * Nat.pow 2 exponent)

/-- The number nearest to `num / den` steps, with a sign. -/
def ofUnits (negative : Bool) (num den : Nat) : Binary64 :=
  let magnitude := nearest num den
  if fits : magnitude < magnitudeCount then .finite negative ⟨magnitude, fits⟩
  else .infinite negative

def zero (negative : Bool) : Binary64 := .finite negative 0

def ofRatio (negative : Bool) (num den : Nat) : Binary64 :=
  ofUnits negative (num * one) den

/-- The number nearest to an integer; the integers beyond all finite numbers have none. -/
def ofInt? (i : Int) : Option Binary64 :=
  match ofRatio (i < 0) i.natAbs 1 with
  | .infinite _ => none
  | x => some x

def signedUnits (negative : Bool) (magnitude : Fin magnitudeCount) : Int :=
  if negative then -(units magnitude : Int) else units magnitude

def isZero : Binary64 → Bool
  | .finite _ magnitude => magnitude == 0
  | _ => false

def neg : Binary64 → Binary64
  | .nan => .nan
  | .infinite negative => .infinite !negative
  | .finite negative magnitude => .finite (!negative) magnitude

/-- Whether a number is above zero; what is no number is not. -/
def isPositive : Binary64 → Bool
  | .nan => false
  | .infinite negative => !negative
  | .finite negative magnitude => !negative && magnitude != 0

/-- Whether a number is zero or below; what is no number is neither this nor positive. -/
def isNonpositive : Binary64 → Bool
  | .nan => false
  | .infinite negative => negative
  | .finite negative magnitude => negative || magnitude == 0

/-- Numeric equality: both zeros are equal, and what is no number equals nothing. -/
def same : Binary64 → Binary64 → Bool
  | .infinite a, .infinite b => a == b
  | .finite a x, .finite b y => signedUnits a x == signedUnits b y
  | _, _ => false

/-- The integer part, toward zero. -/
def truncate? : Binary64 → Option Int
  | .finite negative magnitude => some (Int.tdiv (signedUnits negative magnitude) one)
  | _ => none

def floor? : Binary64 → Option Int
  | .finite negative magnitude => some (Int.fdiv (signedUnits negative magnitude) one)
  | _ => none

/-- The integer that a number equals, if it is one. -/
def toInt? : Binary64 → Option Int
  | .finite negative magnitude =>
    let i := signedUnits negative magnitude
    if i % (one : Int) = 0 then some (i / one) else none
  | _ => none

def ofSignedUnits (zeroSign : Bool) (i : Int) (den : Nat) : Binary64 :=
  if i = 0 then zero zeroSign else ofUnits (i < 0) i.natAbs den

def add : Binary64 → Binary64 → Binary64
  | .finite a x, .finite b y =>
    ofSignedUnits (a && b) (signedUnits a x + signedUnits b y) 1
  | .infinite a, .infinite b => if a = b then .infinite a else .nan
  | .infinite a, .finite _ _ => .infinite a
  | .finite _ _, .infinite b => .infinite b
  | _, _ => .nan

def mul : Binary64 → Binary64 → Binary64
  | .finite a x, .finite b y => ofUnits (a != b) (units x * units y) one
  | .infinite a, .infinite b => .infinite (a != b)
  | .infinite a, .finite b y => if y = 0 then .nan else .infinite (a != b)
  | .finite a x, .infinite b => if x = 0 then .nan else .infinite (a != b)
  | _, _ => .nan

end Binary64

end AcmeClient
