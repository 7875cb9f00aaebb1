import ConfigLang.Text.Utf8
/-! Positions and ranges in a source text. A position is counted three ways at once: bytes
from the start, newlines passed, and characters since the last of them. -/
namespace ConfigLang

/-- A position in a source text, counted from zero. -/
structure Position where
  offset : Nat
  /-- Newlines passed. -/
  row : Nat
  /-- Characters since the last newline. -/
  column : Nat
  deriving Repr, DecidableEq, Inhabited

namespace Position

def start : Position := ⟨0, 0, 0⟩

def step (p : Position) (c : Char) : Position :=
  if c = '\n' then ⟨p.offset + c.utf8Size, p.row + 1, 0⟩
  else ⟨p.offset + c.utf8Size, p.row, p.column + 1⟩

def advance (p : Position) (text : List Char) : Position :=
  text.foldl step p

def compare (p q : Position) : Ordering :=
  (Ord.compare p.offset q.offset).then
    ((Ord.compare p.row q.row).then (Ord.compare p.column q.column))

def min (p q : Position) : Position := if p.compare q = .gt then q else p

def max (p q : Position) : Position := if p.compare q = .gt then p else q

@[simp] theorem advance_nil (p : Position) : p.advance [] = p := rfl

@[simp] theorem advance_cons (p : Position) (c : Char) (cs : List Char) :
    p.advance (c :: cs) = (p.step c).advance cs := rfl

theorem advance_append (p : Position) (xs ys : List Char) :
    p.advance (xs ++ ys) = (p.advance xs).advance ys := by
  simp [advance, List.foldl_append]

@[simp] theorem offset_step (p : Position) (c : Char) :
    (p.step c).offset = p.offset + c.utf8Size := by
  unfold step; split <;> rfl

theorem offset_advance (p : Position) (text : List Char) :
    (p.advance text).offset = p.offset + Text.byteLength text := by
  induction text generalizing p with
  | nil => rfl
  | cons c cs ih => simp [ih, Nat.add_assoc]

end Position

/-- A stretch of a source text, from `start` up to but not including `stop`. -/
structure Range where
  start : Position
  stop : Position
  deriving Repr, DecidableEq, Inhabited

namespace Range

def emptyAt (p : Position) : Range := ⟨p, p⟩

def cover (a b : Range) : Range := ⟨a.start.min b.start, a.stop.max b.stop⟩

/-- Length in bytes; a reversed range has none. -/
def length (r : Range) : Nat := r.stop.offset - r.start.offset

def isEmpty (r : Range) : Bool := r.length == 0

end Range

end ConfigLang
