/-! Byte lengths and byte offsets of character lists. A slice is taken between two
byte offsets and exists only if both fall between characters. -/
namespace ConfigLang.Text

def byteLength : List Char → Nat
  | [] => 0
  | c :: cs => c.utf8Size + byteLength cs

@[simp] theorem byteLength_nil : byteLength [] = 0 := rfl

@[simp] theorem byteLength_cons (c : Char) (cs : List Char) :
    byteLength (c :: cs) = c.utf8Size + byteLength cs := rfl

@[simp] theorem byteLength_append (xs ys : List Char) :
    byteLength (xs ++ ys) = byteLength xs + byteLength ys := by
  induction xs with
  | nil => simp
  | cons c cs ih => simp only [List.cons_append, byteLength_cons, ih, Nat.add_assoc]

theorem byteLength_pos {cs : List Char} (nonempty : cs ≠ []) : 0 < byteLength cs := by
  cases cs with
  | nil => exact absurd rfl nonempty
  | cons c cs => exact Nat.add_pos_left c.utf8Size_pos (byteLength cs)

/-- The characters before and after the byte offset `n`, if it is a character boundary. -/
def splitAtByte : Nat → List Char → Option (List Char × List Char)
  | 0, cs => some ([], cs)
  | _ + 1, [] => none
  | n + 1, c :: cs =>
    if c.utf8Size ≤ n + 1 then
      (splitAtByte (n + 1 - c.utf8Size) cs).map fun (front, back) => (c :: front, back)
    else none

def sliceBytes (start stop : Nat) (cs : List Char) : Option (List Char) :=
  if start ≤ stop then do
    let (_, back) ← splitAtByte start cs
    let (middle, _) ← splitAtByte (stop - start) back
    return middle
  else none

/-- How many characters start before the byte offset `n`. -/
def charsBefore : Nat → List Char → Nat
  | 0, _ => 0
  | _ + 1, [] => 0
  | n + 1, c :: cs => 1 + charsBefore (n + 1 - c.utf8Size) cs

theorem splitAtByte_append (xs ys : List Char) :
    splitAtByte (byteLength xs) (xs ++ ys) = some (xs, ys) := by
  induction xs with
  | nil => simp [splitAtByte]
  | cons c cs ih =>
    have pos : 0 < c.utf8Size := c.utf8Size_pos
    obtain ⟨k, hk⟩ : ∃ k, byteLength (c :: cs) = k + 1 :=
      ⟨byteLength (c :: cs) - 1, by simp only [byteLength_cons]; omega⟩
    have rest : k + 1 - c.utf8Size = byteLength cs := by
      simp only [byteLength_cons] at hk; omega
    have fits : c.utf8Size ≤ k + 1 := by simp only [byteLength_cons] at hk; omega
    rw [hk, List.cons_append, splitAtByte, if_pos fits, rest, ih]
    rfl

theorem sliceBytes_append (before middle behind : List Char) :
    sliceBytes (byteLength before) (byteLength before + byteLength middle)
      (before ++ (middle ++ behind)) = some middle := by
  unfold sliceBytes
  rw [if_pos (Nat.le_add_right _ _), splitAtByte_append, Nat.add_sub_cancel_left]
  simp only [bind, Option.bind, splitAtByte_append]
  rfl

end ConfigLang.Text
