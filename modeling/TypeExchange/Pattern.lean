import TypeExchange.Failure
import TypeExchange.Regex.Parse
import TypeExchange.Regex.Search

/-! Patterns for the names of types. -/
namespace TypeExchange

inductive Pattern where
  | literal (name : String)
  /-- A regular expression with its meaning. -/
  | expression (text : String) (regex : Regex)
  deriving DecidableEq, Repr

namespace Pattern

/-- The pattern that a regular expression writes. -/
def ofExpression (text : String) : Except Failure Pattern :=
  match Regex.ofText text with
  | .ok r => .ok (expression text r)
  | .error fault => .error (.pattern text fault.message)

/-- The pattern of an expression that is known to be one. -/
def ofValid (text : String) (valid : (Regex.ofText text).isOk = true) : Pattern :=
  match Regex.ofText text, valid with
  | .ok r, _ => expression text r

/-- A literal matches the whole of a name, an expression any part of it. -/
def accepts : Pattern → String → Bool
  | literal name, candidate => name == candidate
  | expression _ r, candidate => r.isMatch candidate

/-- The name or the expression itself. -/
def text : Pattern → String
  | literal name => name
  | expression text _ => text

def isLiteral : Pattern → Bool
  | literal _ => true
  | expression .. => false

/-- The text, with slashes around an expression. -/
def display : Pattern → String
  | literal name => name
  | expression text _ => "/" ++ text ++ "/"

end Pattern
end TypeExchange
