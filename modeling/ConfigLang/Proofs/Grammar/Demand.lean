import ConfigLang.Proofs.Grammar.Progress
import ConfigLang.Proofs.Nesting.Basic
/-! What a draft demands while it reads a document of the grammar: the rest of the item that it
is in, and behind it the rest of the open blocks. The string lines of a value are taken
greedily, so a spread that follows them is taken for a piece of theirs. -/
namespace ConfigLang

/-- Whether string lines behind the item are added to the value of an entry; `absorbing` says the
same of the item itself. -/
def Item.absorbs (absorbing : Bool) : Item → Bool
  | .tagged _ (.strings _ _) _ _ => true
  | .untagged (.strings _ _) _ => true
  | .strings _ => absorbing
  | _ => false

mutual

def ValueNode.absorbsSpread : ValueNode → Bool
  | .block items _ => absorbsSpread false items
  | .text _ _ => false
  | .strings _ _ => false

def Item.absorbsSpread (absorbing : Bool) : Item → Bool
  | .spread _ => absorbing
  | .tagged _ value _ _ => value.absorbsSpread
  | .untagged value _ => value.absorbsSpread
  | _ => false

/-- Whether a spread follows the string lines of a value, with nothing but further string lines in
between. -/
def absorbsSpread (absorbing : Bool) : List Item → Bool
  | [] => false
  | item :: rest => item.absorbsSpread absorbing || absorbsSpread (item.absorbs absorbing) rest

end

namespace Draft

open Grammar

theorem absorbsSpread_item (entry : Entry) (value : ValueNode) (absorbing : Bool) :
    (entry.item value).absorbsSpread absorbing = value.absorbsSpread := by
  cases entry <;> rw [Entry.item, Item.absorbsSpread]

theorem nesting_item (entry : Entry) (value : ValueNode) :
    (entry.item value).nesting = value.nesting := by
  cases entry <;> rw [Entry.item, Item.nesting]

theorem absorbs_valueOf (entry : Entry) (lines : List StringLine) (absorbing : Bool) :
    (entry.item (valueOf lines)).absorbs absorbing = true := by
  cases entry <;> rfl

theorem absorbsSpread_valueOf (entry : Entry) (lines : List StringLine) (absorbing : Bool) :
    (entry.item (valueOf lines)).absorbsSpread absorbing = false := by
  cases entry <;> rfl

theorem nesting_valueOf (entry : Entry) (lines : List StringLine) :
    (entry.item (valueOf lines)).nesting = 0 := by
  cases entry <;> rfl

variable (readings : Readings) (source : List Char) (limit : Nat)

/-- The tokens to come close `depth` blocks and complete the document, which is doomed if a spread
in it is absorbed; `absorbing` says whether the string lines of a value stand before them. -/
def Rests : (depth : Nat) → (absorbing doomed : Bool) → List Token → Prop
  | 0, absorbing, doomed, ts =>
    ∃ items, AreItems readings source ts items [] ∧ nesting items ≤ limit ∧
      doomed = absorbsSpread absorbing items
  | depth + 1, absorbing, doomed, ts =>
    ∃ items closing rest rest' later, AreItems readings source ts items (closing :: rest) ∧
      closing.kind = .closeCurly ∧ IsLineEnd true rest rest' ∧
      nesting items + (depth + 1) ≤ limit ∧ Rests depth false later rest' ∧
      doomed = (absorbsSpread absorbing items || later)

def Follows (depth : Nat) (doomed : Bool) (item : Item) (ts : List Token) : Prop :=
  ∃ later, Rests readings source limit depth (item.absorbs false) later ts ∧
    item.nesting + depth ≤ limit ∧ doomed = (item.absorbsSpread false || later)

inductive Uncons (depth : Nat) (absorbing doomed : Bool) : List Token → Prop
  | done (top : depth = 0) (sound : doomed = false) : Uncons depth absorbing doomed []
  | closing {outer : Nat} {closing : Token} {rest rest' : List Token} (inner : depth = outer + 1)
      (closingKind : closing.kind = .closeCurly) (ended : IsLineEnd true rest rest')
      (rests : Rests readings source limit outer false doomed rest') :
      Uncons depth absorbing doomed (closing :: rest)
  | item {item : Item} {ts rest : List Token} {later : Bool}
      (derived : IsItem readings source ts item rest) (room : item.nesting + depth ≤ limit)
      (rests : Rests readings source limit depth (item.absorbs absorbing) later rest)
      (same : doomed = (item.absorbsSpread absorbing || later)) :
      Uncons depth absorbing doomed ts

variable {readings source limit}

theorem uncons_of_rests {depth : Nat} {absorbing doomed : Bool} {ts : List Token}
    (rests : Rests readings source limit depth absorbing doomed ts) :
    Uncons readings source limit depth absorbing doomed ts := by
  cases depth with
  | zero =>
    obtain ⟨items, are, room, rfl⟩ := rests
    cases are with
    | nil => exact .done rfl (by rw [absorbsSpread])
    | @cons _ rest _ item items first others =>
      rw [nesting] at room
      refine .item first (by omega) ⟨items, others, by omega, rfl⟩ ?_
      rw [absorbsSpread]
  | succ depth =>
    obtain ⟨items, closing, rest, rest', later, are, closingKind, ended, room, outer, rfl⟩ := rests
    generalize behind : closing :: rest = ts' at are
    cases are with
    | nil =>
      subst behind
      rw [absorbsSpread, Bool.false_or]
      exact .closing rfl closingKind ended outer
    | @cons _ rest _ item items first others =>
      subst behind
      rw [nesting] at room
      refine .item first (by omega)
        ⟨items, closing, _, rest', later, others, closingKind, ended, by omega, outer, rfl⟩ ?_
      rw [absorbsSpread, Bool.or_assoc]

theorem rests_of_item {depth : Nat} {absorbing doomed later : Bool} {item : Item}
    {ts rest : List Token} (derived : IsItem readings source ts item rest)
    (room : item.nesting + depth ≤ limit)
    (rests : Rests readings source limit depth (item.absorbs absorbing) later rest)
    (same : doomed = (item.absorbsSpread absorbing || later)) :
    Rests readings source limit depth absorbing doomed ts := by
  cases depth with
  | zero =>
    obtain ⟨items, others, room', rfl⟩ := rests
    refine ⟨item :: items, .cons derived others, ?_, ?_⟩
    · rw [nesting]
      omega
    · rw [absorbsSpread, same]
  | succ depth =>
    obtain ⟨items, closing, rest, rest', later, others, closingKind, ended, room', outer,
      rfl⟩ := rests
    refine ⟨item :: items, closing, rest, rest', later, .cons derived others, closingKind,
      ended, ?_, outer, ?_⟩
    · rw [nesting]
      omega
    · rw [absorbsSpread, same, Bool.or_assoc]

theorem blind_follows (depth : Nat) (doomed : Bool) :
    Blind (Follows readings source limit depth doomed) := by
  constructor
  · rintro comment comment' rest ⟨later, rests, room, same⟩
    exact ⟨later, rests, room, same⟩
  · rintro key key' value template template' span span' rest ⟨later, rests, room, same⟩
    rw [Item.nesting] at room
    rw [Item.absorbsSpread] at same
    refine ⟨later, ?_, by rwa [Item.nesting], by rwa [Item.absorbsSpread]⟩
    cases value <;> exact rests

/-- What a draft waits for while it reads a spread as a piece of a value's string line. -/
def Stuck : Awaiting → List Token → Prop
  | .component reference, ts =>
    reference.place ≠ .item ∧
      ∃ components closing rest, EndsReference ts components true closing rest
  | .separator reference, ts =>
    reference.place ≠ .item ∧ ∃ dot ts' components closing rest, ts = dot :: ts' ∧
      dot.kind = .dot ∧ EndsReference ts' components true closing rest
  | .spreadClose reference, ts =>
    reference.place ≠ .item ∧ ∃ closing rest, ts = closing :: rest ∧ closing.kind = .closeAngled
  | _, _ => False

variable (readings source limit)

inductive Demands (doomed : Bool) (draft : Draft) (tokens : List Token) : Prop
  | owes (inside : ∀ entry value, draft.awaiting ≠ .valueEnd entry value)
      (owed : Owes readings source (Follows readings source limit draft.blocks.length doomed)
      (Rests readings source limit draft.blocks.length false doomed) draft.awaiting tokens)
  | valueEnd {entry : Entry} {value : ValueNode} {rest : List Token}
      (awaiting : draft.awaiting = .valueEnd entry value)
      (ended : IsLineEnd true (tokens.filter Token.isSignificant) rest)
      (rests : Rests readings source limit draft.blocks.length false doomed rest)
  | stuck (sure : doomed = true)
      (stuck : Stuck draft.awaiting (tokens.filter Token.isSignificant))

variable {readings source limit}

end Draft

end ConfigLang
