import ConfigLang.Value.Basic
/-! Merging. Maps merge key by key, the right side deciding; lists and texts give way to the
right side; values of different shapes clash. A spread differs in one point: it appends to a
list. -/
namespace ConfigLang

structure Conflict where
  left : Shape
  right : Shape
  /-- The keys that lead to the two values, outermost first. -/
  path : List String
  deriving Repr, DecidableEq

def Conflict.under (key : String) (conflict : Conflict) : Conflict :=
  ⟨conflict.left, conflict.right, key :: conflict.path⟩

namespace Value

mutual

def mergeOnto : Value → Value → Except Conflict Value
  | map left, map right => (mergeEntries left right).map map
  | list _, list items => .ok (list items)
  | string _, string text => .ok (string text)
  | a, b => .error ⟨a.shape, b.shape, []⟩

def mergeEntries (left : List (String × Value)) :
    List (String × Value) → Except Conflict (List (String × Value))
  | [] => .ok left
  | (key, value) :: rest =>
    match Entries.get? key left with
    | none => mergeEntries (Entries.insert key value left) rest
    | some current =>
      match mergeOnto current value with
      | .error conflict => .error (conflict.under key)
      | .ok merged => mergeEntries (Entries.insert key merged left) rest

end

/-- `b` merged onto `a`; a value that is absent changes nothing. -/
def merge (a b : Option Value) : Except Conflict (Option Value) :=
  match a, b with
  | none, b => .ok b
  | some a, none => .ok (some a)
  | some a, some b => (a.mergeOnto b).map some

def appendSpread (a : Option Value) (b : Value) : Except Conflict (Option Value) :=
  match a, b with
  | some (list items), list more => .ok (some (list (items ++ more)))
  | a, b => merge a (some b)

@[simp] theorem merge_none_left (b : Option Value) : merge none b = .ok b := rfl

@[simp] theorem merge_none_right (a : Option Value) : merge a none = .ok a := by
  cases a <;> rfl

end Value

end ConfigLang
