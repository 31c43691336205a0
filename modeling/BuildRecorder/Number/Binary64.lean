/-!
# Binary floating-point numbers

The doubles of IEEE 754, kept as a mantissa and a binary exponent so that they can be compared and
computed with exactly. `ofDecimal` rounds a decimal to the nearest double, ties to the even
mantissa.
-/

namespace BuildRecorder

/-- A double. The finite ones are `± mantissa · 2 ^ exponent` with a mantissa below `2 ^ 53`. -/
inductive Binary64 where
  | finite (negative : Bool) (mantissa : Nat) (exponent : Int)
  | infinity (negative : Bool)
  | nan
deriving DecidableEq

namespace Binary64

def mantissaBits : Nat := 53

/-- The exponent of the smallest double above zero. -/
def minExponent : Int := -1074

/-- The first exponent that no finite double has with a full mantissa. -/
def exponentLimit : Int := 972

/-- `num / den` in units of `2 ^ e`, as a fraction. -/
def scaled (num den : Nat) : Int → Nat × Nat
  | .ofNat e => (num, den * Nat.pow 2 e)
  | .negSucc e => (num * Nat.pow 2 (e + 1), den)

/-- The whole number nearest to a fraction; a half goes to the even neighbour. -/
def roundHalfEven (num den : Nat) : Nat :=
  let q := num / den
  let r := num % den
  if 2 * r < den then q
  else if den < 2 * r then q + 1
  else q + q % 2

/-- The exponent at which a positive fraction has a mantissa of the full width, or the smallest. -/
def exponentOf (num den : Nat) : Int :=
  let guess : Int := (Nat.log2 num : Int) - (Nat.log2 den : Int) - (mantissaBits - 1 : Nat)
  let (n, d) := scaled num den guess
  let e := if n / d < Nat.pow 2 (mantissaBits - 1) then guess - 1 else guess
  max e minExponent

/-- The double nearest to `num / den`, with the given sign. -/
def ofFraction (negative : Bool) (num den : Nat) : Binary64 :=
  if num = 0 then .finite negative 0 minExponent
  else
    let e := exponentOf num den
    let (n, d) := scaled num den e
    let m := roundHalfEven n d
    let (m, e) :=
      if m = Nat.pow 2 mantissaBits then (Nat.pow 2 (mantissaBits - 1), e + 1) else (m, e)
    if exponentLimit ≤ e then .infinity negative else .finite negative m e

/-- The double nearest to `digits · 10 ^ exponent`. Decimals far outside the range of doubles are
settled by their magnitude alone, so that no huge power is computed. -/
def ofDecimal (negative : Bool) (digits : Nat) (exponent : Int) : Binary64 :=
  let magnitude : Int := exponent + (Nat.toDigits 10 digits).length
  if digits = 0 ∨ magnitude < -400 then .finite negative 0 minExponent
  else if 400 < magnitude then .infinity negative
  else match exponent with
    | .ofNat k => ofFraction negative (digits * Nat.pow 10 k) 1
    | .negSucc k => ofFraction negative digits (Nat.pow 10 (k + 1))

end Binary64

end BuildRecorder
