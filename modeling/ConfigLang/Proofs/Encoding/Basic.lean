import ConfigLang.Json.Printer
import ConfigLang.Syntax.Tree
import ConfigLang.Value.Basic
/-! Every value written as a document. A text is a string line; a list and a map are blocks,
each element in braces of its own. The empty list and the empty map hold one entry whose
block is empty: it fixes the shape and adds nothing. -/
namespace ConfigLang.Value

mutual

def depth : Value → Nat
  | string _ => 0
  | list items => depthOfItems items + 1
  | map entries => depthOfEntries entries + 1

def depthOfItems : List Value → Nat
  | [] => 0
  | item :: rest => max item.depth (depthOfItems rest)

def depthOfEntries : List (String × Value) → Nat
  | [] => 0
  | (_, value) :: rest => max value.depth (depthOfEntries rest)

end

mutual

def encode : Value → List Char
  | string text => Json.literal text ++ ['\n']
  | list [] => ['-', ' ', '\x7b', '\n', '\x7d', '\n']
  | list (item :: rest) => encodeItems (item :: rest)
  | map [] => ['[', 'k', ']', ' ', '\x7b', '\n', '\x7d', '\n']
  | map (entry :: rest) => encodeEntries (entry :: rest)

def encodeItems : List Value → List Char
  | [] => []
  | item :: rest =>
    ['-', ' ', '\x7b', '\n'] ++ item.encode ++ ['\x7d', '\n'] ++ encodeItems rest

def encodeEntries : List (String × Value) → List Char
  | [] => []
  | (key, value) :: rest =>
    ['[', '\n'] ++ Json.literal key ++ ['\n', ']', ' ', '\x7b', '\n'] ++ value.encode ++
      ['\x7d', '\n'] ++ encodeEntries rest

end

mutual

/-- The items that the encoding of a value is read as, wherever it stands. -/
inductive HasTree : Value → List Item → Prop
  | string (text : String) (piece line : Span) :
      HasTree (string text) [.strings ⟨[.literal text piece], line⟩]
  | emptyList (block item : Span) : HasTree (list []) [.untagged (.block [] block) item]
  | list {first : Value} {rest : List Value} {items : List Item}
      (elements : HaveTrees (first :: rest) items) : HasTree (list (first :: rest)) items
  | emptyMap (key block item : Span) :
      HasTree (map []) [.tagged (.simple "k" key) (.block [] block) none item]
  | map {first : String × Value} {rest : List (String × Value)} {items : List Item}
      (elements : EntriesHaveTrees (first :: rest) items) : HasTree (map (first :: rest)) items

inductive HaveTrees : List Value → List Item → Prop
  | nil : HaveTrees [] []
  | cons {value : Value} {rest : List Value} {inner items : List Item} (block item : Span)
      (tree : HasTree value inner) (others : HaveTrees rest items) :
      HaveTrees (value :: rest) (.untagged (.block inner block) item :: items)

inductive EntriesHaveTrees : List (String × Value) → List Item → Prop
  | nil : EntriesHaveTrees [] []
  | cons {name : String} {value : Value} {rest : List (String × Value)}
      {inner items : List Item} (piece line key block item : Span)
      (tree : HasTree value inner) (others : EntriesHaveTrees rest items) :
      EntriesHaveTrees ((name, value) :: rest)
        (.tagged (.multiline [.strings ⟨[.literal name piece], line⟩] key) (.block inner block)
          none item :: items)

end

end ConfigLang.Value
