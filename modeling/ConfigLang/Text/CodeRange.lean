/-! Ranges of code points, the rows of the character tables. -/
namespace ConfigLang.Text

abbrev CodeRange := Nat × Nat

def CodeRange.contains (r : CodeRange) (c : Char) : Bool := r.1 ≤ c.toNat && c.toNat ≤ r.2

end ConfigLang.Text
