import ConfigLang.Eval.Joining
/-! The templates of a document, by name. A template is kept unevaluated; it is evaluated
each time a block is made from it. -/
namespace ConfigLang.Eval

abbrev Templates := Entries ValueNode

namespace Templates

/-- The value of an item if it is an entry named `name`. A key that needs an argument names
nothing, and a template is no entry. -/
def entryNamed? (name : String) : Item → Option ValueNode
  | .tagged key value none _ =>
    match keyText none key with
    | .ok text => if text = name then some value else none
    | .error _ => none
  | _ => none

/-- The value that a path of keys leads to inside a value; of entries with the same key the
last one counts. -/
def descend? : List String → ValueNode → Option ValueNode
  | [], node => some node
  | name :: rest, .block items _ => (items.reverse.findSome? (entryNamed? name)).bind (descend? rest)
  | _ :: _, _ => none

def find? (templates : Templates) : List String → Option ValueNode
  | [] => none
  | name :: rest => (Entries.get? name templates).bind (descend? rest)

def lookup (templates : Templates) (path : Path) (span : Span) : Except Error ValueNode :=
  match templates.find? path.components with
  | some node => .ok node
  | none => .error (.noSuchTemplate path.display span)

theorem lookup_eq_ok_iff {templates : Templates} {path : Path} {span : Span} {node : ValueNode} :
    templates.lookup path span = .ok node ↔ templates.find? path.components = some node := by
  unfold lookup
  cases templates.find? path.components <;> simp

end Templates

end ConfigLang.Eval
