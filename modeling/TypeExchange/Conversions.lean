import TypeExchange.Table

/-! Lookups in a table by the name of a type, in general and for the pairs of systems that code
generation uses. -/
namespace TypeExchange.Table

def findFromType (t : Table) (pair : SystemPair) (name : String) : Except Failure Descriptor :=
  t.descriptor pair .source name

def findToType (t : Table) (pair : SystemPair) (name : String) : Except Failure Descriptor :=
  t.descriptor pair .target name

def typeFor (t : Table) (pair : SystemPair) (name : String) : Except Failure String := do
  return (← t.findFromType pair name).target.typeName

def convertForward (t : Table) (pair : SystemPair) (code name : String)
    (context : Option String) : Except Failure String := do
  return (← t.findFromType pair name).convert code context

/-- Converts into a type that is named on the target side. -/
def convertBackward (t : Table) (pair : SystemPair) (code name : String) :
    Except Failure String := do
  return (← t.findToType pair name).convert code none

def initializedValue (t : Table) (pair : SystemPair) (name : String) : Except Failure String :=
  t.initializer pair name

def abiToRuntime : SystemPair := ⟨.abi, .runtime⟩
def runtimeToAbi : SystemPair := ⟨.runtime, .abi⟩
def valueToRuntime : SystemPair := ⟨.value, .runtime⟩
def runtimeToValue : SystemPair := ⟨.runtime, .value⟩

def runtimeTypeForAbi (t : Table) (abiType : String) : Except Failure String :=
  t.typeFor abiToRuntime abiType

def abiTypeForRuntime (t : Table) (runtimeType : String) : Except Failure String :=
  t.typeFor runtimeToAbi runtimeType

/-- The context names the class of a tuple. -/
def runtimeCodeFromAbi (t : Table) (code abiType : String) (context : Option String) :
    Except Failure String :=
  t.convertForward abiToRuntime code abiType context

def abiCodeFromRuntime (t : Table) (code abiType : String) : Except Failure String :=
  t.convertBackward runtimeToAbi code abiType

def runtimeTypeForValue (t : Table) (valueType : String) : Except Failure String :=
  t.typeFor valueToRuntime valueType

def valueTypeForRuntime (t : Table) (runtimeType : String) : Except Failure String :=
  t.typeFor runtimeToValue runtimeType

def runtimeCodeFromValue (t : Table) (code valueType : String) : Except Failure String :=
  t.convertForward valueToRuntime code valueType none

def valueCodeFromRuntime (t : Table) (code valueType : String) : Except Failure String :=
  t.convertBackward runtimeToValue code valueType

def initialValueFromRuntime (t : Table) (runtimeType : String) : Except Failure String :=
  t.initializedValue runtimeToValue runtimeType

end TypeExchange.Table
