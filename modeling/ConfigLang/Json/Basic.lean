import ConfigLang.Decimal.Layout
/-! JSON values. Objects keep their entries as written, in order and with repeated keys, so
that each reader can decide what a repeated key means. -/
namespace ConfigLang

/-- A JSON number. An integer of at most 64 bits stays exact; every other number is the
nearest binary64 number, with a sign of its own so that a negative zero can be told from
zero. -/
inductive Json.Number
  | whole (n : Int)
  | binary (negative : Bool) (magnitude : Decimal.Binary64)
  deriving Repr, DecidableEq

inductive Json
  | null
  | bool (b : Bool)
  | number (n : Json.Number)
  | string (text : String)
  | array (items : List Json)
  | object (entries : List (String × Json))
  deriving Inhabited

namespace Json

def numberLayout : Decimal.Layout := ⟨-5, 15⟩

def Number.text : Number → String
  | .whole n => toString n
  | .binary negative magnitude =>
    (if negative then "-" else "") ++ numberLayout.write magnitude.shortest

def ofNat (n : Nat) : Json := .number (.whole n)

def ofOption {α : Type} (f : α → Json) : Option α → Json
  | none => .null
  | some a => f a

end Json

end ConfigLang
