import ConfigLang.Decimal.Shortest
/-! How a decimal is written out: positionally while the leading digit is near the point, and
with an exponent outside. -/
namespace ConfigLang.Decimal

/-- The decimal exponents of a leading digit that is written positionally. -/
structure Layout where
  plainFrom : Int
  plainTo : Int

namespace Layout

/-- The decimal in its written form. Positional forms always show a fraction; an exponent
always shows its sign. -/
def write (layout : Layout) (d : Scientific) : String :=
  let digits := Nat.toDigits 10 d.digits
  let lead := d.exponent + digits.length - 1
  if layout.plainFrom ≤ lead ∧ lead ≤ layout.plainTo then
    if lead < 0 then
      String.ofList ('0' :: '.' :: List.replicate (-lead - 1).toNat '0' ++ digits)
    else
      let whole := lead.toNat + 1
      let front := digits.take whole ++ List.replicate (whole - digits.length) '0'
      let back := digits.drop whole
      String.ofList (front ++ '.' :: (if back.isEmpty then ['0'] else back))
  else
    let mantissa := match digits with
      | [] => []
      | [c] => [c]
      | c :: rest => c :: '.' :: rest
    let sign := if lead < 0 then '-' else '+'
    String.ofList (mantissa ++ 'e' :: sign :: Nat.toDigits 10 lead.natAbs)

end Layout

end ConfigLang.Decimal
