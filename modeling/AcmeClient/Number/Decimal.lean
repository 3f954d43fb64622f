import AcmeClient.Number.Binary64

namespace AcmeClient

def digits (n : Nat) : List Char := (toString n).toList

/-- The decimal digits of an integer, after a sign if it is negative. -/
def signedDigits (i : Int) : List Char :=
  if i < 0 then '-' :: digits i.natAbs else digits i.natAbs

def ofDigits (text : List Char) : Nat :=
  text.foldl (fun value c => 10 * value + (c.toNat - 48)) 0

/-- A number below another, as a fraction, times a power of ten. -/
def scaleFraction (num den : Nat) (power : Int) : Nat × Nat :=
  match power with
  | .ofNat k => (num * Nat.pow 10 k, den)
  | .negSucc k => (num, den * Nat.pow 10 (k + 1))

/-- The number nearest to `coefficient * 10 ^ exponent`. -/
def Binary64.ofDecimal (negative : Bool) (coefficient : Nat) (exponent : Int) : Binary64 :=
  let top : Int := (digits coefficient).length + exponent
  if coefficient = 0 ∨ top < -330 then zero negative
  else if 310 < top then .infinite negative
  else
    let (num, den) := scaleFraction coefficient 1 exponent
    ofRatio negative num den

/-- A positive decimal: its significant digits and the power of ten of the first one. -/
structure Scientific where
  significant : List Char
  exponent : Int
deriving DecidableEq, Repr

namespace Scientific

def leadingExponent (units : Nat) : Int :=
  (digits (units * Nat.pow 10 400 / Binary64.one)).length - 401

def ofCoefficient (coefficient : Nat) (last : Int) : Scientific :=
  let text := digits coefficient
  ⟨text, last + (text.length - 1 : Nat)⟩

/-- Without the zeros at the end, but with at least one digit. -/
def trim (x : Scientific) : Scientific :=
  let kept := (x.significant.reverse.dropWhile (· == '0')).reverse
  { x with significant := if kept.isEmpty then ['0'] else kept }

/-- The power of ten of the last digit of a positive number of steps that has so many digits. -/
def lastExponent (units count : Nat) : Int := leadingExponent units - (count - 1 : Nat)

def returns (magnitude : Fin magnitudeCount) (last : Int) (coefficient : Nat) : Bool :=
  Binary64.ofDecimal false coefficient last == .finite false magnitude

/-- The better of the two coefficients beside a fraction, of those that are read back as a number; a
tie goes to the even one. -/
def neighbour? (magnitude : Fin magnitudeCount) (last : Int) (fraction : Nat × Nat) :
    Option Scientific :=
  let lower := fraction.1 / fraction.2
  let nearer := roundQuotient fraction.1 fraction.2
  let further := if nearer = lower then lower + 1 else lower
  if returns magnitude last nearer then some (trim (ofCoefficient nearer last))
  else if returns magnitude last further then some (trim (ofCoefficient further last))
  else none

/-- The better of the two neighbours of a number among the decimals with so many digits, of those
that are read back as that number. -/
def readBack? (magnitude : Fin magnitudeCount) (count : Nat) : Option Scientific :=
  let units := Binary64.units magnitude
  let last := lastExponent units count
  neighbour? magnitude last (scaleFraction units Binary64.one (-last))

/-- The coefficient nearest to a fraction, cut to so many digits. -/
def nearestOf (count : Nat) (last : Int) (fraction : Nat × Nat) : Scientific :=
  let x := ofCoefficient (roundQuotient fraction.1 fraction.2) last
  { x with significant := x.significant.take count }

/-- The decimal with so many significant digits that is nearest to a positive number. -/
def rounded (units : Nat) (count : Nat) : Scientific :=
  let last := lastExponent units count
  nearestOf count last (scaleFraction units Binary64.one (-last))

/-- The fewest digits that are read back as the same number, and the nearest of those. -/
def shortest (magnitude : Fin magnitudeCount) : Scientific :=
  ((List.range 17).findSome? fun n => readBack? magnitude (n + 1)).getD
    (rounded (Binary64.units magnitude) 17)

def exponentText (e : Int) : List Char :=
  let text := digits e.natAbs
  (if e < 0 then '-' else '+') :: (if text.length < 2 then '0' :: text else text)

/-- One digit, a point when more follow, and the exponent. -/
def exponential (x : Scientific) : List Char :=
  match x.significant with
  | [] => []
  | [first] => first :: 'e' :: exponentText x.exponent
  | first :: rest => first :: '.' :: rest ++ 'e' :: exponentText x.exponent

def positional (x : Scientific) : List Char × List Char :=
  match x.exponent with
  | .ofNat e =>
    let whole := x.significant.take (e + 1)
    (whole ++ List.replicate (e + 1 - whole.length) '0', x.significant.drop (e + 1))
  | .negSucc e => (['0'], List.replicate e '0' ++ x.significant)

/-- With an exponent below 10⁻⁴ and from 10¹⁶ on, and otherwise with a point and at least one digit
after it. -/
def text (x : Scientific) : List Char :=
  if x.exponent < -4 ∨ 16 ≤ x.exponent then x.exponential
  else
    let (whole, fraction) := x.positional
    whole ++ '.' :: (if fraction.isEmpty then ['0'] else fraction)

end Scientific

namespace Binary64

def sign (negative : Bool) : List Char := if negative then ['-'] else []

def text : Binary64 → List Char
  | .nan => "nan".toList
  | .infinite negative => sign negative ++ "inf".toList
  | .finite negative magnitude =>
    sign negative ++
      if magnitude.val = 0 then "0.0".toList else (Scientific.shortest magnitude).text

def fixedDigits (units places : Nat) : List Char × List Char :=
  let scaled := roundQuotient (units * Nat.pow 10 places) one
  let fraction := digits (scaled % Nat.pow 10 places)
  (digits (scaled / Nat.pow 10 places),
    if places = 0 then [] else List.replicate (places - fraction.length) '0' ++ fraction)

/-- Positive decimals with so many significant digits; zero is written with zeros. -/
def significantDigits (units count : Nat) : Scientific :=
  if units = 0 then ⟨List.replicate count '0', 0⟩ else Scientific.rounded units count

end Binary64

end AcmeClient
