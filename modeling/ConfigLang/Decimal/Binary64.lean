/-! Finite, non-negative binary64 numbers in exact arithmetic. Each operation is the exact
rational result rounded once, to the nearest number and on a tie to the even mantissa. -/
namespace ConfigLang.Decimal

/-- The number `mantissa * 2 ^ scale / 2 ^ 1074`. -/
structure Binary64 where
  mantissa : Nat
  scale : Nat
  deriving Repr, DecidableEq, Inhabited

/-- The quotient `num / den` rounded to the nearest integer, ties to even. -/
def roundQuotient (num den : Nat) : Nat :=
  let q := num / den
  let r := num % den
  if 2 * r < den then q else if den < 2 * r then q + 1 else q + q % 2

namespace Binary64

def zero : Binary64 := ⟨0, 0⟩

def isZero (x : Binary64) : Bool := x.mantissa == 0

def numerator (x : Binary64) : Nat := x.mantissa * Nat.pow 2 x.scale

def denominator : Nat := Nat.pow 2 1074

def maxScale : Nat := 2045

def nearest (num den : Nat) : Option Binary64 :=
  match num with
  | 0 => some zero
  | n + 1 =>
    let scaled := denominator * (n + 1)
    let scale := (scaled / den).log2 - 52
    let mantissa := roundQuotient scaled (den * Nat.pow 2 scale)
    let x := if mantissa = Nat.pow 2 53 then ⟨Nat.pow 2 52, scale + 1⟩ else ⟨mantissa, scale⟩
    if maxScale < x.scale then none else some x

def ofNat (n : Nat) : Option Binary64 := nearest n 1

def mul (x y : Binary64) : Option Binary64 :=
  nearest (x.numerator * y.numerator) (denominator * denominator)

def div (x y : Binary64) : Option Binary64 :=
  if y.isZero then none else nearest x.numerator y.numerator

/-- Whether the gap to the number below is half the gap to the number above. -/
def narrowBelow (x : Binary64) : Bool := x.mantissa == Nat.pow 2 52 && x.scale != 0

end Binary64

end ConfigLang.Decimal
