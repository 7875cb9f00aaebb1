/-! Lines of a text. Report lines end at a newline; a source listing also breaks its
lines at the other Unicode line terminators. -/
namespace ConfigLang.Text

/-- The lines that newlines end; a carriage return before the newline is dropped, and no
line follows a final newline. -/
def lines (cs : List Char) : List (List Char) :=
  go [] cs
where
  go (line : List Char) : List Char → List (List Char)
    | [] => if line.isEmpty then [] else [line.reverse]
    | '\n' :: rest => (match line with | '\r' :: body => body | _ => line).reverse :: go [] rest
    | c :: rest => go (c :: line) rest

def isLineTerminator (c : Char) : Bool :=
  c == '\n' || c == '\r' || c == '\x0b' || c == '\x0c' || c == '\x85' || c == '\u2028' ||
    c == '\u2029'

structure ListingPlace where
  line : Nat
  column : Nat
  deriving Repr, DecidableEq

/-- The place of the character with index `index` in a listing of the text: on the last line
that starts at or before it. A carriage return and a newline end one line together, and a
line starts only where a character does, so the end of the text lies on its last line. -/
def listingPlace (cs : List Char) (index : Nat) : ListingPlace :=
  go 0 0 index cs
where
  go (line column : Nat) : Nat → List Char → ListingPlace
    | 0, _ => ⟨line, column⟩
    | _ + 1, [] => ⟨line, column⟩
    | n + 1, c :: rest =>
      match rest with
      | [] => ⟨line, column + 1⟩
      | d :: _ =>
        if isLineTerminator c && !(c == '\r' && d == '\n') then go (line + 1) 0 n rest
        else go line (column + 1) n rest

end ConfigLang.Text
