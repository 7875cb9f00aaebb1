import ConfigLang.Proofs.Eval.Distinct
import ConfigLang.Proofs.Eval.Reach
/-! The rules that a block keeps. The first item that has a shape of its own fixes that of the
block, and none that comes later changes it; content closes the block to a `@from`. So a block that
comes to a value keeps both rules, and below the top level it has no template. -/
namespace ConfigLang

/-- The shape that an item asks of its block. A template asks for none, nor does a spread. -/
def Item.shape? : Item → Option Shape
  | .tagged _ _ none _ => some .map
  | .untagged _ _ => some .list
  | .strings _ => some .string
  | _ => none

structure Orderly (items : List Item) : Prop where
  /-- No `@from` stands behind content. -/
  inheritsFirst :
    items.Pairwise fun before after => before.isContent = true → after.isInherit = false
  /-- Entries, list items and string lines are not mixed. -/
  unmixed : (items.filterMap Item.shape?).Pairwise (· = ·)

/-- All blocks outside template bodies keep the rules. -/
structure Document.KeepsRules (document : Document) : Prop where
  orderly : ∀ block, Relation.ReflTransGen HoldsBlock document.items block → Orderly block
  topTemplates : ∀ block, Relation.TransGen HoldsBlock document.items block →
    ∀ item ∈ block, item.isTemplate = false

namespace Eval

namespace Accumulator

variable {acc next : Accumulator}

theorem eq_of_lock {shape held : Shape} {span : Span} (fits : acc.lock shape span = .ok next)
    (taken : acc.shape? = some held) : held = shape := by
  obtain ⟨value, here, rfl⟩ := Option.map_eq_some_iff.1 taken
  unfold lock at fits
  split at fits
  · next empty =>
    rw [empty] at here
    cases here
  · next other same =>
    rw [same] at here
    cases here
    split at fits
    · next fit => exact fit
    · cases fits

@[simp] theorem shape?_insert (key : String) (value : Option Value) :
    (acc.insert key value).shape? = acc.shape? := by
  unfold insert
  split
  · next entries value same => simp [shape?, same, Value.shape]
  · next entries same => simp [shape?, same, Value.shape]
  · rfl

@[simp] theorem shape?_push (value : Option Value) : (acc.push value).shape? = acc.shape? := by
  unfold push
  split
  · next items value same => simp [shape?, same, Value.shape]
  · rfl

theorem shape?_appendLine {argument : Option Value} {line : StringLine}
    (appended : acc.appendLine argument line = .ok next) : next.shape? = acc.shape? := by
  unfold appendLine at appended
  split at appended
  · next text same =>
    obtain ⟨whole, _, appended⟩ := except_bind_eq_ok.1 appended
    cases appended
    simp [shape?, same, Value.shape]
  · cases appended
    rfl

theorem shape?_spread {argument : Option Value} {path : Path} {held : Shape}
    (spread : acc.spread argument path = .ok next) (taken : acc.shape? = some held) :
    next.shape? = some held := by
  obtain ⟨value, here, rfl⟩ := Option.map_eq_some_iff.1 taken
  obtain ⟨brought, _, onto⟩ := spread_ok spread
  cases brought with
  | none =>
    rw [Value.spreadOnto_none] at onto
    rw [shape?, ← Except.ok.inj onto]
    exact taken
  | some brought =>
    rw [here] at onto
    obtain ⟨same, whole, merged, shape⟩ := Value.shape_of_spreadOnto onto
    rw [shape?, merged, Option.map_some, shape, same]

end Accumulator

structure Fits (before : Progress) (item : Item) (after : Progress) : Prop where
  closed : before.hasContent = true → item.isInherit = false ∧ after.hasContent = true
  content : item.isContent = true → after.hasContent = true
  kept : ∀ shape, before.accumulator.shape? = some shape → after.accumulator.shape? = some shape
  own : ∀ shape, item.shape? = some shape → after.accumulator.shape? = some shape

theorem fits_of_locked {before : Progress} {item : Item} {locked last : Accumulator}
    {shape : Shape} {span : Span} (other : item.isInherit = false) (own : item.shape? = some shape)
    (lock : before.accumulator.lock shape span = .ok locked) (same : last.shape? = locked.shape?) :
    Fits before item (before.withContent last) := by
  have fixed : last.shape? = some shape := same.trans (Accumulator.shape?_of_lock lock)
  constructor
  · exact fun _ => ⟨other, rfl⟩
  · exact fun _ => rfl
  · intro held taken
    rw [Accumulator.eq_of_lock lock taken]
    exact fixed
  · intro asked isOwn
    rw [own] at isOwn
    cases isOwn
    exact fixed

section items

variable {nested : NodeEval} {argument : Option Value}

theorem fits_of_addItem {before after : Progress} {item : Item}
    (added : addItem nested argument before item = .ok after) : Fits before item after := by
  cases item with
  | blank span =>
    cases added
    exact ⟨fun content => ⟨rfl, content⟩, nofun, fun _ => id, nofun⟩
  | comment comment =>
    cases added
    exact ⟨fun content => ⟨rfl, content⟩, nofun, fun _ => id, nofun⟩
  | inherit path span =>
    rw [addItem] at added
    split at added
    · cases added
    · next early =>
      cases added
      exact ⟨fun content => absurd content early, nofun, fun _ => id, nofun⟩
  | tagged key value template span =>
    cases template with
    | some mark =>
      cases added
      exact ⟨fun _ => ⟨rfl, rfl⟩, fun _ => rfl, fun _ => id, nofun⟩
    | none =>
      obtain ⟨locked, lock, added⟩ := except_bind_eq_ok.1 added
      obtain ⟨name, _, added⟩ := except_bind_eq_ok.1 added
      obtain ⟨value, _, added⟩ := except_bind_eq_ok.1 added
      cases added
      exact fits_of_locked rfl rfl lock (Accumulator.shape?_insert name value)
  | untagged value span =>
    obtain ⟨locked, lock, added⟩ := except_bind_eq_ok.1 added
    obtain ⟨value, _, added⟩ := except_bind_eq_ok.1 added
    cases added
    exact fits_of_locked rfl rfl lock (Accumulator.shape?_push value)
  | strings line =>
    obtain ⟨locked, lock, added⟩ := except_bind_eq_ok.1 added
    obtain ⟨acc, appended, added⟩ := except_bind_eq_ok.1 added
    cases added
    exact fits_of_locked rfl rfl lock (Accumulator.shape?_appendLine appended)
  | spread path =>
    obtain ⟨acc, spread, added⟩ := except_bind_eq_ok.1 added
    cases added
    exact ⟨fun _ => ⟨rfl, rfl⟩, fun _ => rfl, fun _ => Accumulator.shape?_spread spread, nofun⟩

structure Admits (progress : Progress) (items : List Item) : Prop where
  closed : progress.hasContent = true → ∀ item ∈ items, item.isInherit = false
  fixed : ∀ shape, progress.accumulator.shape? = some shape →
    ∀ own ∈ items.filterMap Item.shape?, shape = own

theorem admits_cons {before next : Progress} {item : Item} {rest : List Item}
    (fits : Fits before item next) (later : Admits next rest) : Admits before (item :: rest) := by
  constructor
  · intro content
    obtain ⟨here, content⟩ := fits.closed content
    exact List.forall_mem_cons.2 ⟨here, later.closed content⟩
  · intro shape taken
    have kept := fits.kept shape taken
    cases asked : item.shape? with
    | none =>
      rw [List.filterMap_cons_none asked]
      exact later.fixed shape kept
    | some own =>
      rw [List.filterMap_cons_some asked]
      have same : some shape = some own := kept.symm.trans (fits.own own asked)
      exact List.forall_mem_cons.2 ⟨Option.some.inj same, later.fixed shape kept⟩

theorem orderly_cons {before next : Progress} {item : Item} {rest : List Item}
    (fits : Fits before item next) (later : Admits next rest) (orderly : Orderly rest) :
    Orderly (item :: rest) := by
  constructor
  · refine List.pairwise_cons.2 ⟨?_, orderly.inheritsFirst⟩
    exact fun other member content => later.closed (fits.content content) other member
  · cases asked : item.shape? with
    | none =>
      rw [List.filterMap_cons_none asked]
      exact orderly.unmixed
    | some own =>
      rw [List.filterMap_cons_some asked]
      exact List.pairwise_cons.2 ⟨later.fixed own (fits.own own asked), orderly.unmixed⟩

theorem orderly_of_addItems {progress last : Progress} {items : List Item}
    (added : addItems nested argument progress items = .ok last) :
    Admits progress items ∧ Orderly items := by
  induction items generalizing progress with
  | nil => exact ⟨⟨by simp, by simp⟩, .nil, .nil⟩
  | cons item rest ih =>
    obtain ⟨next, here, others⟩ := except_bind_eq_ok.1 added
    have fits := fits_of_addItem here
    obtain ⟨later, orderly⟩ := ih others
    exact ⟨admits_cons fits later, orderly_cons fits later orderly⟩

end items

theorem orderly_of_evaluates {templates : Templates} {limit : Nat} {argument : Option Value}
    {items : List Item} (evaluates : Evaluates templates limit argument items) : Orderly items := by
  obtain ⟨depth, value, evaluated⟩ := evaluates
  obtain ⟨progress, added, _⟩ := except_bind_eq_ok.1 evaluated
  exact (orderly_of_addItems added).2

end Eval

namespace Document

open Eval

theorem keepsRules_of_evaluate {document : Document} {limit : Nat} {argument value : Option Value}
    (evaluated : document.evaluate limit argument = .ok value) : document.KeepsRules := by
  obtain ⟨templates, _, evaluates⟩ := evaluates_of_evaluate evaluated
  constructor
  · intro block below
    exact orderly_of_evaluates (evaluates_of_below evaluates below)
  · exact fun block nested => (evaluates_of_nested evaluates nested).2

/-- A document that comes to a value keeps the rules in all its blocks outside template bodies. If
it breaks one of them anywhere, it ends in an error. -/
theorem rules_kept (document : Document) (limit : Nat) (argument : Option Value) :
    (∀ value, document.evaluate limit argument = .ok value → document.KeepsRules) ∧
      (¬ document.KeepsRules → ∃ error, document.evaluate limit argument = .error error) := by
  refine ⟨fun value => keepsRules_of_evaluate, ?_⟩
  intro broken
  cases evaluated : document.evaluate limit argument with
  | error error => exact ⟨error, rfl⟩
  | ok value => exact absurd (keepsRules_of_evaluate evaluated) broken

/-- A block that is made from a template and adds to its list what is spread. With the `@from`
behind the list the document comes to nothing. -/
theorem rules_kept_from_first :
    let made : Item := .inherit ⟨["t"], default⟩ default
    let own : Item := .untagged (.text "a" default) default
    let body : ValueNode := .block [.spread ⟨[], default⟩] default
    let document (items : List Item) : Document :=
      ⟨[.tagged (.simple "t" default) body (some default) default,
        .tagged (.simple "k" default) (.block items default) none default], default, .single "" ""⟩
    let argument : Option Value := some (.map [("more", .list [.string "b"])])
    let first : Document := document [made, own, .spread ⟨["more"], default⟩]
    first.evaluate 3 argument = .ok (some (.map [("k", .list [.string "a", .string "b"])])) ∧
      first.KeepsRules ∧ ¬ (document [own, made]).KeepsRules ∧
      ∃ error, (document [own, made]).evaluate 3 argument = .error error := by
  intro made own body document argument first
  have evaluated : first.evaluate 3 argument =
      .ok (some (.map [("k", .list [.string "a", .string "b"])])) := rfl
  have broken : ¬ (document [own, made]).KeepsRules := by
    intro keeps
    have inside : HoldsBlock (document [own, made]).items [own, made] :=
      ⟨_, .tail _ (.head _), default, rfl⟩
    have early := (keeps.orderly _ (.single inside)).inheritsFirst
    have none := (List.pairwise_cons.1 early).1 made (.head _) rfl
    cases none
  exact ⟨evaluated, (rules_kept first 3 argument).1 _ evaluated, broken,
    (rules_kept (document [own, made]) 3 argument).2 broken⟩

end Document

end ConfigLang
