import ConfigLang.Entries
/-! The values that documents have: texts, lists and maps. Every leaf is a text. A block
without content has no value, which is `none` in `Option Value` and not a fourth shape. -/
namespace ConfigLang

inductive Shape
  | string
  | list
  | map
  deriving Repr, DecidableEq

def Shape.name : Shape → String
  | .string => "string"
  | .list => "list"
  | .map => "map"

def Shape.entryName : Shape → String
  | .string => "a string fragment"
  | .list => "a list entry"
  | .map => "a map entry"

inductive Value
  | string (text : String)
  | list (items : List Value)
  | map (entries : List (String × Value))
  deriving Inhabited

namespace Value

def shape : Value → Shape
  | string _ => .string
  | list _ => .list
  | map _ => .map

def empty : Shape → Value
  | .string => string ""
  | .list => list []
  | .map => map []

@[simp] theorem shape_empty (s : Shape) : (empty s).shape = s := by cases s <;> rfl

def text? : Value → Option String
  | string text => some text
  | _ => none

def items? : Value → Option (List Value)
  | list items => some items
  | _ => none

def entries? : Value → Option (Entries Value)
  | map entries => some entries
  | _ => none

mutual

def decEq : (a b : Value) → Decidable (a = b)
  | string s, string t =>
    if h : s = t then isTrue (by rw [h]) else isFalse (by simpa using h)
  | list xs, list ys =>
    match decEqItems xs ys with
    | isTrue h => isTrue (by rw [h])
    | isFalse h => isFalse (by simpa using h)
  | map xs, map ys =>
    match decEqEntries xs ys with
    | isTrue h => isTrue (by rw [h])
    | isFalse h => isFalse (by simpa using h)
  | string _, list _ => isFalse nofun
  | string _, map _ => isFalse nofun
  | list _, string _ => isFalse nofun
  | list _, map _ => isFalse nofun
  | map _, string _ => isFalse nofun
  | map _, list _ => isFalse nofun

def decEqItems : (xs ys : List Value) → Decidable (xs = ys)
  | [], [] => isTrue rfl
  | [], _ :: _ => isFalse nofun
  | _ :: _, [] => isFalse nofun
  | x :: xs, y :: ys =>
    match decEq x y, decEqItems xs ys with
    | isTrue h, isTrue t => isTrue (by rw [h, t])
    | isFalse h, _ => isFalse (by simp [h])
    | _, isFalse t => isFalse (by simp [t])

def decEqEntries : (xs ys : List (String × Value)) → Decidable (xs = ys)
  | [], [] => isTrue rfl
  | [], _ :: _ => isFalse nofun
  | _ :: _, [] => isFalse nofun
  | (k, x) :: xs, (l, y) :: ys =>
    if hk : k = l then
      match decEq x y, decEqEntries xs ys with
      | isTrue h, isTrue t => isTrue (by rw [hk, h, t])
      | isFalse h, _ => isFalse (by simp [h])
      | _, isFalse t => isFalse (by simp [t])
    else isFalse (by simp [hk])

end

instance : DecidableEq Value := decEq

mutual

/-- Equality up to the order of map entries. -/
def agrees : Value → Value → Bool
  | string s, string t => s == t
  | list xs, list ys => agreeItems xs ys
  | map xs, map ys => xs.length == ys.length && agreeEntries xs ys
  | _, _ => false

def agreeItems : List Value → List Value → Bool
  | [], [] => true
  | x :: xs, y :: ys => agrees x y && agreeItems xs ys
  | _, _ => false

def agreeEntries : List (String × Value) → List (String × Value) → Bool
  | [], _ => true
  | (key, x) :: xs, ys =>
    (match Entries.get? key ys with
      | some y => agrees x y
      | none => false) && agreeEntries xs ys

end

/-- A position in a list: decimal digits, with or without a plus sign. -/
def position? (text : String) : Option Nat :=
  let digits := match text.toList with
    | '+' :: digits => digits
    | digits => digits
  if digits.isEmpty || !digits.all (fun c => '0' ≤ c && c ≤ '9') then none
  else some (digits.foldl (fun n c => 10 * n + (c.toNat - '0'.toNat)) 0)

/-- The value at the end of a path, which selects map entries by key and list items by
position. -/
def select? : List String → Value → Option Value
  | [], value => some value
  | key :: path, map entries => (Entries.get? key entries).bind (select? path)
  | key :: path, list items =>
    (position? key).bind fun i => (items[i]?).bind (select? path)
  | _ :: _, string _ => none

end Value

end ConfigLang
