import ConfigLang.Proofs.Grammar.Comment
import ConfigLang.Proofs.Token.Tiling
/-! Spans that lie in a source. Both ends fall between characters and are counted right, so an end
is known by its offset, and the span from one such span through a later one runs from the start
of the first to the end of the second. -/
namespace ConfigLang

namespace Text

theorem splitAtByte_eq_some {n : Nat} {cs front back : List Char}
    (split : splitAtByte n cs = some (front, back)) :
    cs = front ++ back ∧ byteLength front = n := by
  fun_induction splitAtByte n cs generalizing front with
  | case1 cs =>
    cases split
    exact ⟨rfl, rfl⟩
  | case2 | case4 => cases split
  | case3 n c cs fits ih =>
    obtain ⟨⟨others, behind⟩, found, same⟩ := Option.map_eq_some_iff.1 split
    cases same
    obtain ⟨rfl, length⟩ := ih found
    have whole : byteLength (c :: others) = n + 1 := by
      rw [byteLength_cons, length]
      omega
    exact ⟨rfl, whole⟩

theorem sliceBytes_eq_some {start stop : Nat} {cs middle : List Char}
    (sliced : sliceBytes start stop cs = some middle) :
    ∃ before behind, cs = before ++ (middle ++ behind) ∧ byteLength before = start ∧
      stop = start + byteLength middle := by
  unfold sliceBytes at sliced
  split at sliced
  · next ordered =>
    obtain ⟨⟨before, back⟩, front, sliced⟩ := Option.bind_eq_some_iff.1 sliced
    obtain ⟨⟨found, behind⟩, split, same⟩ := Option.bind_eq_some_iff.1 sliced
    cases same
    obtain ⟨rfl, length⟩ := splitAtByte_eq_some front
    obtain ⟨rfl, distance⟩ := splitAtByte_eq_some split
    exact ⟨before, behind, rfl, length, by omega⟩
  · cases sliced

theorem sliceBytes_zero_of_slice {start stop : Nat} {cs middle : List Char}
    (sliced : sliceBytes start stop cs = some middle) :
    ∃ before, sliceBytes 0 stop cs = some (before ++ middle) := by
  obtain ⟨before, behind, rfl, rfl, rfl⟩ := sliceBytes_eq_some sliced
  have front := sliceBytes_append [] (before ++ middle) behind
  refine ⟨before, ?_⟩
  simpa using front

end Text

namespace Position

variable {source : List Char} {p q : Position}

theorem Within.split (here : p.Within source) :
    ∃ front behind, source = front ++ behind ∧ p.offset = Text.byteLength front := by
  obtain ⟨front, slice, same⟩ := here
  obtain ⟨before, behind, split, empty, _⟩ := Text.sliceBytes_eq_some slice
  have nothing : before = [] := by
    by_contra nonempty
    have positive := Text.byteLength_pos nonempty
    omega
  refine ⟨front, behind, by simpa [nothing] using split, ?_⟩
  rw [same, offset_advance_start]

theorem Within.eq_of_offset (here : p.Within source) (there : q.Within source)
    (same : p.offset = q.offset) : p = q := by
  obtain ⟨front, slice, rfl⟩ := here
  obtain ⟨front', slice', rfl⟩ := there
  rw [same, slice'] at slice
  cases slice
  rfl

@[simp] theorem compare_self (p : Position) : p.compare p = .eq := by simp [compare]

theorem compare_eq_lt (less : p.offset < q.offset) : p.compare q = .lt := by
  simp [compare, Nat.compare_eq_lt.2 less]

theorem Within.min_eq_left (here : p.Within source) (there : q.Within source)
    (le : p.offset ≤ q.offset) : p.min q = p := by
  rcases Nat.lt_or_eq_of_le le with less | same
  · simp [min, compare_eq_lt less]
  · simp [min, here.eq_of_offset there same]

theorem Within.max_eq_right (here : p.Within source) (there : q.Within source)
    (le : p.offset ≤ q.offset) : p.max q = q := by
  rcases Nat.lt_or_eq_of_le le with less | same
  · simp [max, compare_eq_lt less]
  · simp [max, here.eq_of_offset there same]

/-- A character that ends no line stands in front of the position. -/
def BehindText (source : List Char) (p : Position) : Prop :=
  ∃ front c, Text.sliceBytes 0 p.offset source = some (front ++ [c]) ∧ Pattern.isLineEnd c = false

end Position

namespace Span

/-- The span is one of the only file of its source: it starts and ends between characters, both
ends are counted right, and it does not end before it starts. -/
structure Lies (source : List Char) (span : Span) : Prop where
  file : span.file = 0
  start : span.range.start.Within source
  stop : span.range.stop.Within source
  ordered : span.range.start.offset ≤ span.range.stop.offset

def Before (span other : Span) : Prop := span.range.stop.offset ≤ other.range.start.offset

def Covers (span other : Span) : Prop :=
  span.range.start.offset ≤ other.range.start.offset ∧
    other.range.stop.offset ≤ span.range.stop.offset

section lies

variable {source : List Char} {a b : Span}

theorem Lies.through_eq (first : a.Lies source) (last : b.Lies source)
    (starts : a.range.start.offset ≤ b.range.start.offset)
    (stops : a.range.stop.offset ≤ b.range.stop.offset) :
    a.through b = ⟨0, ⟨a.range.start, b.range.stop⟩⟩ := by
  have sameFile : a.file = b.file := by rw [first.file, last.file]
  rw [through, if_pos sameFile, Range.cover, first.start.min_eq_left last.start starts,
    first.stop.max_eq_right last.stop stops, first.file]

theorem Lies.through (first : a.Lies source) (last : b.Lies source)
    (starts : a.range.start.offset ≤ b.range.start.offset)
    (stops : a.range.stop.offset ≤ b.range.stop.offset) : (a.through b).Lies source := by
  rw [first.through_eq last starts stops]
  exact ⟨rfl, first.start, last.stop, Nat.le_trans first.ordered stops⟩

theorem lies_advance (before middle behind : List Char) :
    Span.Lies (before ++ (middle ++ behind))
      ⟨0, ⟨Position.start.advance before, Position.start.advance (before ++ middle)⟩⟩ := by
  have start := Position.within_advance before (middle ++ behind)
  have stop := Position.within_advance (before ++ middle) behind
  rw [List.append_assoc] at stop
  refine ⟨rfl, start, stop, ?_⟩
  simp only [Position.offset_advance_start, Text.byteLength_append]
  exact Nat.le_add_right _ _

theorem Lies.sliced (lies : a.Lies source) :
    ∃ middle, Text.sliceBytes a.range.start.offset a.range.stop.offset source = some middle := by
  have ordered := lies.ordered
  obtain ⟨front, behind, here, atStart⟩ := lies.start.split
  obtain ⟨whole, rest, there, atStop⟩ := lies.stop.split
  rw [atStart, atStop] at ordered ⊢
  obtain ⟨middle, rfl⟩ : front <+: whole := by
    have starts : front <+: source := ⟨behind, here.symm⟩
    rcases List.prefix_or_prefix_of_prefix starts ⟨rest, there.symm⟩ with shorter | ⟨more, rfl⟩
    · exact shorter
    · have none : more = [] := by
        by_contra nonempty
        have positive := Text.byteLength_pos nonempty
        rw [Text.byteLength_append] at ordered
        omega
      simp [none]
  rw [there, Text.byteLength_append, List.append_assoc]
  exact ⟨middle, Text.sliceBytes_append front middle rest⟩

end lies

end Span

end ConfigLang
