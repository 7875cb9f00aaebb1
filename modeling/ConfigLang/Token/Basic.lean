import ConfigLang.Source.Span
import ConfigLang.Text.Quoted
/-! Tokens: what kind of text they are, the text itself, and where it stands. -/
namespace ConfigLang

inductive Token.Kind
  | whitespace
  | newline
  | openAngled
  | closeAngled
  | openCurly
  | closeCurly
  | openSquare
  | closeSquare
  | hash
  | minus
  | plus
  | dot
  | star
  | directive
  | stringLiteral
  | identifier
  | keyText
  | line
  deriving Repr, DecidableEq

namespace Token.Kind

def all : List Token.Kind :=
  [whitespace, newline, openAngled, closeAngled, openCurly, closeCurly, openSquare,
    closeSquare, hash, minus, plus, dot, star, directive, stringLiteral, identifier, keyText,
    line]

def name : Token.Kind → String
  | whitespace => "whitespace"
  | newline => "newline"
  | openAngled => "openAngled"
  | closeAngled => "closeAngled"
  | openCurly => "openCurly"
  | closeCurly => "closeCurly"
  | openSquare => "openSquare"
  | closeSquare => "closeSquare"
  | hash => "hash"
  | minus => "minus"
  | plus => "plus"
  | dot => "dot"
  | star => "star"
  | directive => "directive"
  | stringLiteral => "stringLiteral"
  | identifier => "identifier"
  | keyText => "keyText"
  | line => "line"

def describe : Token.Kind → String
  | whitespace => "whitespace"
  | newline => "a newline"
  | openAngled => "`<<`"
  | closeAngled => "`>>`"
  | openCurly => "`\x7b`"
  | closeCurly => "`\x7d`"
  | openSquare => "`[`"
  | closeSquare => "`]`"
  | hash => "`#`"
  | minus => "`-`"
  | plus => "`+`"
  | dot => "`.`"
  | star => "`*`"
  | directive => "a directive"
  | stringLiteral => "a string literal"
  | identifier => "an identifier"
  | keyText => "key text"
  | line => "line text"

end Token.Kind

structure Token where
  kind : Token.Kind
  text : String
  span : Span
  deriving Repr, DecidableEq

namespace Token

def isSignificant (token : Token) : Bool := token.kind != .whitespace

def describe (token : Token) : String :=
  match token.kind with
  | .directive | .identifier | .stringLiteral =>
    token.kind.describe ++ " `" ++ token.text ++ "`"
  | kind => kind.describe

def display (token : Token) : String :=
  token.span.display ++ " " ++ token.kind.name ++ " " ++ Text.quote token.text

end Token

end ConfigLang
