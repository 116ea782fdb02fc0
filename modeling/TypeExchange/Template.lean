import TypeExchange.Failure

/-! Templates for code: text with places for a code fragment and for its context. -/
namespace TypeExchange

/-- A part of a template's meaning. -/
inductive Segment where
  | text (chars : List Char)
  | code
  | context
  deriving DecidableEq, Repr

/-- The smallest parts that a template is written with: a doubled brace and any other character
stand for one character each. -/
inductive TemplateToken where
  | char (c : Char)
  | code
  | context
  deriving DecidableEq, Repr

structure Template where
  source : String
  segments : List Segment
  deriving DecidableEq, Repr

namespace Template

/-- The kinds of faults, before the whole template is known. -/
inductive TokenFault where
  | unterminated
  | unknownPlaceholder (name : List Char)
  | unmatchedBrace
  deriving DecidableEq, Repr

/-- A single opening brace begins a placeholder, which ends at the next closing brace. -/
def tokens : List Char → Except TokenFault (List TemplateToken)
  | [] => .ok []
  | '\x7b' :: '\x7b' :: rest => (tokens rest).map (.char '\x7b' :: ·)
  | '\x7d' :: '\x7d' :: rest => (tokens rest).map (.char '\x7d' :: ·)
  | '\x7b' :: 'c' :: 'o' :: 'd' :: 'e' :: '\x7d' :: rest => (tokens rest).map (.code :: ·)
  | '\x7b' :: 'c' :: 'o' :: 'n' :: 't' :: 'e' :: 'x' :: 't' :: '\x7d' :: rest =>
    (tokens rest).map (.context :: ·)
  | '\x7b' :: rest =>
    if rest.contains '\x7d' then .error (.unknownPlaceholder (rest.takeWhile (· != '\x7d')))
    else .error .unterminated
  | '\x7d' :: _ => .error .unmatchedBrace
  | c :: rest => (tokens rest).map (.char c :: ·)

/-- Puts a character in front; it joins a text that comes first. -/
def consChar (c : Char) : List Segment → List Segment
  | .text cs :: rest => .text (c :: cs) :: rest
  | segments => .text [c] :: segments

/-- Joins neighbouring characters. -/
def join : List TemplateToken → List Segment
  | [] => []
  | .char c :: rest => consChar c (join rest)
  | .code :: rest => .code :: join rest
  | .context :: rest => .context :: join rest

def TokenFault.within (template : String) : TokenFault → TemplateFault
  | unterminated => .unterminated template
  | unknownPlaceholder name => .unknownPlaceholder (String.ofList name) template
  | unmatchedBrace => .unmatchedBrace template

def parse (source : String) : Except TemplateFault Template :=
  match tokens source.toList with
  | .ok ts => .ok ⟨source, join ts⟩
  | .error fault => .error (fault.within source)

/-- The template that gives back the code. -/
def identity : Template := ⟨"\x7bcode\x7d", [.code]⟩

def isIdentity (t : Template) : Bool := t == identity

/-- What a segment becomes; a missing context is empty. -/
def renderSegment (code : List Char) (context : Option (List Char)) : Segment → List Char
  | .text cs => cs
  | .code => code
  | .context => context.getD []

def render (t : Template) (code : String) (context : Option String) : String :=
  String.ofList (t.segments.flatMap (renderSegment code.toList (context.map String.toList)))

end Template
end TypeExchange
