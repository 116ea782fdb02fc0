/-! The three systems of types, and the two sides of a rule between them. -/
namespace TypeExchange

inductive TypeSystem where
  | abi | runtime | value
  deriving DecidableEq, Repr

namespace TypeSystem

def all : List TypeSystem := [abi, runtime, value]

def name : TypeSystem → String
  | abi => "abi"
  | runtime => "runtime"
  | value => "value"

def rank : TypeSystem → Nat
  | abi => 0
  | runtime => 1
  | value => 2

instance : LT TypeSystem := ⟨fun a b => a.rank < b.rank⟩

instance (a b : TypeSystem) : Decidable (a < b) := inferInstanceAs (Decidable (a.rank < b.rank))

end TypeSystem

/-- The side of a rule that a lookup compares with the name it is given. -/
inductive Side where
  | source | target
  deriving DecidableEq, Repr

def Side.name : Side → String
  | source => "source"
  | target => "target"

/-- An ordered pair of systems: conversions lead from `source` to `target`. -/
structure SystemPair where
  source : TypeSystem
  target : TypeSystem
  deriving DecidableEq, Repr

namespace SystemPair

/-- The first of two different sources decides, then the target. -/
instance : LT SystemPair :=
  ⟨fun p q => p.source < q.source ∨ (p.source = q.source ∧ p.target < q.target)⟩

instance (p q : SystemPair) : Decidable (p < q) :=
  inferInstanceAs (Decidable (p.source < q.source ∨ (p.source = q.source ∧ p.target < q.target)))

/-- All pairs in ascending order. -/
def all : List SystemPair :=
  TypeSystem.all.flatMap fun a => TypeSystem.all.map fun b => ⟨a, b⟩

/-- The two names with an arrow between them. -/
def text (p : SystemPair) : String := p.source.name ++ " → " ++ p.target.name

end SystemPair
end TypeExchange
