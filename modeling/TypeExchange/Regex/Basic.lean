import TypeExchange.Regex.CharSet

/-! Regular expressions with their flags worked in, and the places where assertions hold. -/
namespace TypeExchange

namespace Regex

/-- What an assertion asks of the characters before and after a position. Words are made of word
characters of Unicode, or of ASCII. -/
inductive Assertion where
  | textStart
  | textEnd
  | lineStart (crlf : Bool)
  | lineEnd (crlf : Bool)
  | wordBoundary (unicode : Bool)
  | notWordBoundary (unicode : Bool)
  | wordStart (unicode : Bool)
  | wordEnd (unicode : Bool)
  | wordStartHalf (unicode : Bool)
  | wordEndHalf (unicode : Bool)
  deriving DecidableEq, Repr

def isAsciiWord (c : Char) : Bool := c.isAlphanum || c == '_'

/-- Whether a word character stands on this side of a position. -/
def inWord (unicode : Bool) : Option Char → Bool
  | none => false
  | some c => if unicode then Unicode.isWordChar c else isAsciiWord c

/-- Whether the assertion holds between `before` and `after`, which are absent at the ends of the
text. A carriage return with its line feed ends one line. -/
def Assertion.holds (a : Assertion) (before after : Option Char) : Bool :=
  match a with
  | textStart => before.isNone
  | textEnd => after.isNone
  | lineStart false => before.isNone || before == some '\n'
  | lineStart true =>
    before.isNone || before == some '\n' || (before == some '\r' && after != some '\n')
  | lineEnd false => after.isNone || after == some '\n'
  | lineEnd true =>
    after.isNone || after == some '\r' || (after == some '\n' && before != some '\r')
  | wordBoundary u => inWord u before != inWord u after
  | notWordBoundary u => inWord u before == inWord u after
  | wordStart u => !inWord u before && inWord u after
  | wordEnd u => inWord u before && !inWord u after
  | wordStartHalf u => !inWord u before
  | wordEndHalf u => !inWord u after

end Regex

inductive Regex where
  | empty
  | chars (set : CharSet)
  | assertion (a : Regex.Assertion)
  | seq (r s : Regex)
  | alt (r s : Regex)
  /-- At least `least` and, if there is a bound, at most `most` times. Whether more or fewer are
  preferred has no bearing on what matches. -/
  | times (r : Regex) (least : Nat) (most : Option Nat)
  deriving DecidableEq, Repr

end TypeExchange
