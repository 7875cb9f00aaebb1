import Mathlib.Data.List.Basic
import ConfigLang.Proofs.Syntax.Layout
/-! Rows of layouts: sound ones that stand one behind the other between two offsets of the source.
A row is what the parts of a sound node are, and some of the nodes that a row can be put
under are these: what is between two brackets, what starts with the first part of the row, and
what is made of nothing but the row. -/
namespace ConfigLang

inductive Row (source : List Char) : Nat → List Layout → Nat → Prop
  | nil {low high : Nat} (le : low ≤ high) : Row source low [] high
  | cons {low high : Nat} {part : Layout} {parts : List Layout}
      (le : low ≤ part.span.range.start.offset) (sound : part.Sound source)
      (others : Row source part.span.range.stop.offset parts high) :
      Row source low (part :: parts) high

namespace Row

variable {source : List Char} {low mid high : Nat} {part last : Layout} {parts others : List Layout}
  {a b : Span}

theorem le (row : Row source low parts high) : low ≤ high := by
  induction row with
  | nil le => exact le
  | cons le sound _ ih => exact le.trans (sound.lies.ordered.trans ih)

theorem widen {low' high' : Nat} (row : Row source low parts high) (lower : low' ≤ low)
    (upper : high ≤ high') : Row source low' parts high' := by
  induction row generalizing low' with
  | nil le => exact .nil (lower.trans (le.trans upper))
  | cons le sound _ ih => exact .cons (lower.trans le) sound (ih (Nat.le_refl _) upper)

theorem append (front : Row source low parts mid) (back : Row source mid others high) :
    Row source low (parts ++ others) high := by
  induction front with
  | nil le => exact back.widen le (Nat.le_refl _)
  | cons le sound _ ih => exact .cons le sound (ih back)

theorem sound (row : Row source low parts high) : ∀ part ∈ parts, part.Sound source := by
  induction row with
  | nil => nofun
  | cons _ sound _ ih => exact List.forall_mem_cons.2 ⟨sound, ih⟩

theorem bounds (row : Row source low parts high) : ∀ part ∈ parts,
    low ≤ part.span.range.start.offset ∧ part.span.range.stop.offset ≤ high := by
  induction row with
  | nil => nofun
  | cons le sound others ih =>
    refine List.forall_mem_cons.2 ⟨⟨le, others.le⟩, fun part member => ?_⟩
    have behind := ih part member
    exact ⟨le.trans (sound.lies.ordered.trans behind.1), behind.2⟩

theorem apart (row : Row source low parts high) :
    parts.Pairwise fun part other => part.span.Before other.span := by
  induction row with
  | nil => exact .nil
  | cons _ _ others ih => exact .cons (fun part member => (others.bounds part member).1) ih

theorem single (sound : part.Sound source) (lower : low ≤ part.span.range.start.offset)
    (upper : part.span.range.stop.offset ≤ high) : Row source low [part] high :=
  .cons lower sound (.nil upper)

theorem through (first : a.Lies source) (final : b.Lies source)
    (ends : b.range.stop.BehindText source) (starts : a.range.start.offset ≤ b.range.start.offset)
    (stops : a.range.stop.offset ≤ b.range.stop.offset)
    (row : Row source a.range.start.offset parts b.range.stop.offset) :
    Row source a.range.start.offset [.node (a.through b) parts] b.range.stop.offset := by
  have lies := first.through final starts stops
  have whole := first.through_eq final starts stops
  have sound : (Layout.node (a.through b) parts).Sound source := by
    rw [whole] at lies ⊢
    exact .node lies ends row.bounds row.apart row.sound
  refine single sound ?_ ?_
  · rw [Layout.span_node, whole]
  · rw [Layout.span_node, whole]

theorem upToLast (row : Row source low (parts ++ [last]) high) :
    Row source low (parts ++ [last]) last.span.range.stop.offset ∧
      last.span.range.stop.offset ≤ high := by
  induction parts generalizing low with
  | nil =>
    cases row with
    | cons le sound others => exact ⟨single sound le (Nat.le_refl _), others.le⟩
  | cons part parts ih =>
    cases row with
    | cons le sound others =>
      obtain ⟨cut, upper⟩ := ih others
      exact ⟨.cons le sound cut, upper⟩

theorem toLast (first : a.Lies source) (isNode : last.isNode = true)
    (stops : a.range.stop.offset ≤ last.span.range.stop.offset)
    (row : Row source a.range.start.offset (parts ++ [last]) high) :
    Row source a.range.start.offset [.node (a.through last.span) (parts ++ [last])] high := by
  have member : last ∈ parts ++ [last] := List.mem_append_right _ List.mem_cons_self
  have sound := row.sound last member
  have starts := (row.bounds last member).1
  obtain ⟨cut, upper⟩ := row.upToLast
  exact (through first sound.lies (sound.ends isNode) starts stops cut).widen (Nat.le_refl _) upper

theorem gather (row : Row source low parts high) (nonempty : parts ≠ [])
    (nodes : ∀ part ∈ parts, part.isNode = true) :
    Row source low [.node (Grammar.spanOf (parts.map Layout.span)) parts] high := by
  obtain rfl | ⟨front, last, rfl⟩ := parts.eq_nil_or_concat'
  · exact absurd rfl nonempty
  · have isNode := nodes last (List.mem_append_right _ List.mem_cons_self)
    cases front with
    | nil =>
      cases row with
      | cons le sound others =>
        have row := single sound (Nat.le_refl _) others.le
        exact (toLast sound.lies isNode (Nat.le_refl _) row).widen le (Nat.le_refl _)
    | cons first front =>
      cases row with
      | cons le sound others =>
        have behind : last ∈ front ++ [last] := List.mem_append_right _ List.mem_cons_self
        have stops := (others.bounds last behind).1.trans (others.sound last behind).lies.ordered
        have whole : Row source first.span.range.start.offset (first :: front ++ [last]) high :=
          .cons (Nat.le_refl _) sound others
        have span : Grammar.spanOf ((first :: front ++ [last]).map Layout.span) =
            first.span.through last.span := by
          rw [List.map_append, Grammar.spanOf, List.map_singleton, List.getLast?_concat]
          rfl
        rw [span]
        exact (toLast sound.lies isNode stops whole).widen le (Nat.le_refl _)

theorem around (row : Row source low [.leaf a] high) :
    Row source low [.node a [.leaf a]] high := by
  cases row with
  | cons le sound others =>
    have whole : Row source a.range.start.offset [.leaf a] a.range.stop.offset :=
      single sound (Nat.le_refl _) (Nat.le_refl _)
    have around : (Layout.node a [.leaf a]).Sound source :=
      .node sound.lies (sound.ends rfl) whole.bounds whole.apart whole.sound
    exact single around le others.le

theorem join (row : Row source low (.leaf a :: .leaf b :: parts) high) :
    Row source low (.leaf (a.through b) :: parts) high := by
  cases row with
  | cons le first others =>
    cases others with
    | cons between final others =>
      have ordered := first.lies.ordered
      have ordered' := final.lies.ordered
      simp only [Layout.span_leaf] at le between ordered ordered'
      have joined : Row source a.range.start.offset [.leaf (a.through b)] b.range.stop.offset :=
        through first.lies final.lies (final.ends rfl) (by omega) (by omega) (.nil (by omega))
      exact (joined.append others).widen le (Nat.le_refl _)

theorem joinAll {α : Type} {span : α → Span} {others : List α}
    (row : Row source low (.leaf a :: others.map fun other => .leaf (span other)) high) :
    Row source low [.leaf (others.foldl (fun joined other => joined.through (span other)) a)]
      high := by
  induction others generalizing a with
  | nil => exact row
  | cons other others ih => exact ih row.join

end Row

end ConfigLang
