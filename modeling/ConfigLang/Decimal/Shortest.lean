import ConfigLang.Decimal.Binary64
/-! The shortest decimal that reads back as a given binary64 number: the fewest digits, of
equally many the nearest, and on a tie the even one. The search tries one grid of decimals
after another, from one digit to seventeen; on each grid only the two neighbours of the
number can be nearest. -/
namespace ConfigLang.Decimal

/-- The number `digits * 10 ^ exponent`. -/
structure Scientific where
  digits : Nat
  exponent : Int
  deriving Repr, DecidableEq, Inhabited

namespace Scientific

def normalize (d : Scientific) : Scientific :=
  go d.digits d.digits d.exponent
where
  go : Nat → Nat → Int → Scientific
    | 0, n, e => ⟨n, e⟩
    | fuel + 1, n, e => if n ≠ 0 ∧ n % 10 = 0 then go fuel (n / 10) (e + 1) else ⟨n, e⟩

def fraction (d : Scientific) : Nat × Nat :=
  match d.exponent with
  | .ofNat k => (d.digits * Nat.pow 10 k, 1)
  | .negSucc k => (d.digits, Nat.pow 10 (k + 1))

end Scientific

namespace Binary64

def readsBack (x : Binary64) (d : Scientific) : Bool :=
  let (num, den) := d.fraction
  let value := denominator * (4 * num)
  let unit := den * Nat.pow 2 x.scale
  let low := (4 * x.mantissa - (if x.narrowBelow then 1 else 2)) * unit
  let high := (4 * x.mantissa + 2) * unit
  if x.mantissa % 2 = 0 then low ≤ value && value ≤ high else low < value && value < high

def leadingExponent (x : Binary64) : Int :=
  ((Nat.toDigits 10 (Nat.pow 10 400 * x.numerator / denominator)).length : Int) - 401

/-- The decimal with at most `n` digits that reads back as `x`, if there is one; of two, the
nearer. -/
def onGrid (x : Binary64) (n : Nat) : Option Scientific :=
  let exponent := x.leadingExponent - n + 1
  let (num, den) := (⟨1, exponent⟩ : Scientific).fraction
  let floor := x.numerator * den / (denominator * num)
  let below : Scientific := ⟨floor, exponent⟩
  let above : Scientific := ⟨floor + 1, exponent⟩
  match x.readsBack below, x.readsBack above with
  | true, true => some ⟨roundQuotient (x.numerator * den) (denominator * num), exponent⟩
  | true, false => some below
  | false, true => some above
  | false, false => none

def shortest (x : Binary64) : Scientific :=
  if x.isZero then ⟨0, 0⟩ else
  match ((List.range 17).map (· + 1)).findSome? x.onGrid with
  | some d => d.normalize
  | none => ⟨0, 0⟩

end Binary64

end ConfigLang.Decimal
