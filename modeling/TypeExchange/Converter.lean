import TypeExchange.Template

/-! Converters: how a code fragment of one type becomes one of another. -/
namespace TypeExchange

/-- Any way to make code from a fragment and, where there is one, its context. -/
structure Converter where
  convert : String → Option String → String

namespace Converter

def identity : Converter := ⟨fun code _ => code⟩

def ofTemplate (t : Template) : Converter := ⟨t.render⟩

/-- Calls a method of the fragment, without arguments. -/
def method (name : String) : Converter := ⟨fun code _ => code ++ "." ++ name ++ "()"⟩

/-- Calls a function on the fragment. -/
def call (function : String) : Converter := ⟨fun code _ => function ++ "(" ++ code ++ ")"⟩

/-- The class of tuples where the context names none. -/
def tupleClass : String := "ethereum.Tuple"

/-- Reads a tuple as an instance of the class that the context names. -/
def tuple : Converter :=
  ⟨fun code context =>
    "changetype<" ++ context.getD tupleClass ++ ">(" ++ code ++ ".toTuple())"⟩

/-- Reads an array of tuples of the class that the context names. -/
def tupleArray : Converter :=
  ⟨fun code context => code ++ ".toTupleArray<" ++ context.getD tupleClass ++ ">()"⟩

end Converter
end TypeExchange
