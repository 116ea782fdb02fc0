import TypeExchange.Regex.Automaton

/-! The regular expression that a text writes. -/
namespace TypeExchange.Regex

/-- More bytes than a class of any kind takes. -/
def classBound : Nat := 2000000

/-- Bytes that the class in brackets cannot take more of. Ranges in ASCII have few case variants,
and no boundary between members takes more than some octets. -/
def SetExpr.bound : SetExpr → Nat
  | empty => 0
  | literal _ => 8000
  | range _ last => if last.char.toNat < 0x80 then 8000 else classBound
  | posix ranges _ => 8000 * ranges.length + 4000
  | shorthand .. | property .. => classBound
  | bracketed _ content => content.bound + 4000
  | union a b | operation _ a b => a.bound + b.bound

/-- Bytes that the automata of an expression cannot take more of. -/
def Expr.bound : Expr → Nat
  | empty | setFlags _ | anchor _ => 100
  | literal _ => 1000
  | dot => 4000
  | shorthand .. | property .. => classBound
  | bracketed _ content => content.bound + 4000
  | group _ _ e => e.bound + 100
  | times e least most _ => (e.bound + 100) * max (max least (most.getD 1)) 1 + 200
  | seq a b => a.bound + b.bound
  | alt a b => a.bound + b.bound + 200

/-- Whether the automata of an expression keep within the limit. They are measured only where the
rough bound does not tell. -/
def Expr.fits (e : Expr) : Except Fault Bool :=
  if e.bound < Footprint.limit then .ok true else do return (← e.form).fits

/-- The meaning of the expression that a text writes. -/
def ofText (text : String) : Except Fault Regex := do
  let e ← Expr.parse text
  let (r, _) ← e.compile .standard
  if ← e.fits then return r else .error .tooLarge

end TypeExchange.Regex
