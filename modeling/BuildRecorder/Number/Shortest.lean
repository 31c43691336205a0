import BuildRecorder.Number.Binary64
import BuildRecorder.Text.Basic

/-!
# Shortest decimals

The shortest decimal that reads back as a given double: for one, two, … digits the two neighbours
of the value on that decimal grid are tried, the first grid with a hit wins, and of two hits the
nearer one is taken. A double is read back from every point of the interval between the midpoints to
its neighbours, ends included when its mantissa is even.
-/

namespace BuildRecorder

/-- A decimal `0.d₁d₂… · 10 ^ point`, its digits as one number. -/
structure Decimal where
  digits : Nat
  point : Int
deriving DecidableEq

namespace Binary64

/-- `num / den` for the value, and the ends of the interval that reads back as it, over one
denominator: lower end, value, upper end, denominator. -/
def interval (mantissa : Nat) (exponent : Int) : Nat × Nat × Nat × Nat :=
  let narrow := mantissa = Nat.pow 2 (mantissaBits - 1) ∧ minExponent < exponent
  let below := if narrow then 1 else 2
  let scale := fun n : Nat => match exponent with
    | .ofNat e => n * Nat.pow 2 e
    | .negSucc _ => n
  let den := match exponent with
    | .ofNat _ => 4
    | .negSucc e => 4 * Nat.pow 2 (e + 1)
  (scale (4 * mantissa - below), scale (4 * mantissa), scale (4 * mantissa + 2), den)

def timesTenPow (num den : Nat) : Int → Nat × Nat
  | .ofNat k => (num * Nat.pow 10 k, den)
  | .negSucc k => (num, den * Nat.pow 10 (k + 1))

/-- The least `k` with `num < den · 10 ^ k`, searched upwards from `k`. -/
def decimalPoint (num den : Nat) : (fuel : Nat) → Int → Int
  | 0, k => k
  | fuel + 1, k =>
    let (n, d) := timesTenPow num den (-k)
    if n < d then k else decimalPoint num den fuel (k + 1)

/-- The decimal of `count` digits that reads back as the value, if there is one. -/
def decimalOfLength? (mantissa : Nat) (exponent : Int) (point : Int) (count : Nat) : Option Nat :=
  let (lower, value, upper, den) := interval mantissa exponent
  let scale := fun n => timesTenPow n den (count - point)
  let inside := fun q : Nat =>
    let (lo, d) := scale lower
    let (hi, _) := scale upper
    if mantissa % 2 = 0 then decide (lo ≤ q * d ∧ q * d ≤ hi) else decide (lo < q * d ∧ q * d < hi)
  let (v, d) := scale value
  let floor := v / d
  let near := roundHalfEven v d
  let far := if near = floor then floor + 1 else floor
  if inside near then some near else if inside far then some far else none

/-- The first of the lengths `count`, `count + 1`, … at which a decimal reads back. -/
def shortestFrom (mantissa : Nat) (exponent : Int) (point : Int) : (fuel count : Nat) → Nat
  | 0, _ => 0
  | fuel + 1, count =>
    match decimalOfLength? mantissa exponent point count with
    | some digits => digits * Nat.pow 10 (17 - count)
    | none => shortestFrom mantissa exponent point fuel (count + 1)

/-- The shortest decimal of a positive finite double, written with seventeen digits. -/
def shortest (mantissa : Nat) (exponent : Int) : Decimal :=
  let (_, value, _, den) := interval mantissa exponent
  let point := decimalPoint value den 700 (-330)
  let digits := shortestFrom mantissa exponent point 17 1
  if digits = Nat.pow 10 17 then ⟨Nat.pow 10 16, point + 1⟩ else ⟨digits, point⟩

/-- Positional notation, always with a fraction. -/
def positional (digits : Text) (point : Int) : Text :=
  let zeros := fun n => List.replicate n (CodePoint.ofChar '0')
  if point ≤ 0 then "0." ++ zeros (-point).toNat ++ digits
  else if digits.length ≤ point.toNat then digits ++ zeros (point.toNat - digits.length) ++ ".0"
  else digits.take point.toNat ++ "." ++ digits.drop point.toNat

/-- Exponent notation; the exponent has a sign and two digits or more. -/
def scientific (digits : Text) (point : Int) : Text :=
  let exponent := point - 1
  let sign : Text := if exponent < 0 then "-" else "+"
  let size := Text.ofNat exponent.natAbs
  let fraction : Text := if digits.length = 1 then [] else "." ++ digits.drop 1
  let pad : Text := if size.length < 2 then "0" else []
  digits.take 1 ++ fraction ++ "e" ++ sign ++ pad ++ size

/-- How doubles are written: positional when the first digit stands from 10⁻⁴ up to below 10¹⁶,
else with an exponent. -/
def text : Binary64 → Text
  | .nan => "nan"
  | .infinity negative => if negative then "-inf" else "inf"
  | .finite negative mantissa exponent =>
    let sign : Text := if negative then "-" else []
    if mantissa = 0 then sign ++ "0.0"
    else
      let decimal := shortest mantissa exponent
      let digits := (Text.ofNat decimal.digits).dropEndWhile (· = '0')
      if -4 < decimal.point ∧ decimal.point ≤ 16 then sign ++ positional digits decimal.point
      else sign ++ scientific digits decimal.point

end Binary64

end BuildRecorder
