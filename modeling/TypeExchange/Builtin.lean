import TypeExchange.Conversions

/-! The table that is in force where none is given. In each list narrower rules stand before
wider ones. -/
namespace TypeExchange.Builtin

def lit (name : String) : Pattern := .literal name

/-- An expression for type names, which is checked where it is written. -/
def re (text : String) (valid : (Regex.ofText text).isOk = true := by decide +kernel) : Pattern :=
  .ofValid text valid

def abiToRuntimeRules : List Rule := [
  ⟨lit "address", lit "Address", .method "toAddress", none⟩,
  ⟨lit "bool", lit "boolean", .method "toBoolean", none⟩,
  ⟨lit "byte", lit "Bytes", .method "toBytes", none⟩,
  ⟨re "^bytes([0-9]+)?$", lit "Bytes", .method "toBytes", none⟩,
  ⟨re "^int(8|16|24|32)$", lit "i32", .method "toI32", none⟩,
  ⟨re "^uint(8|16|24)$", lit "i32", .method "toI32", none⟩,
  ⟨re "^u?int[0-9]+$", lit "BigInt", .method "toBigInt", none⟩,
  ⟨lit "string", lit "string", .method "toString", none⟩,
  ⟨re "^address\\[([0-9]+)?\\]$", lit "Array<Address>", .method "toAddressArray", none⟩,
  ⟨re "^bool\\[([0-9]+)?\\]$", lit "Array<boolean>", .method "toBooleanArray", none⟩,
  ⟨re "^byte\\[([0-9]+)?\\]$", lit "Array<Bytes>", .method "toBytesArray", none⟩,
  ⟨re "^bytes([0-9]+)?\\[([0-9]+)?\\]$", lit "Array<Bytes>", .method "toBytesArray", none⟩,
  ⟨re "^int(8|16|24|32)\\[([0-9]+)?\\]$", lit "Array<i32>", .method "toI32Array", none⟩,
  ⟨re "^uint(8|16|24)\\[([0-9]+)?\\]$", lit "Array<i32>", .method "toI32Array", none⟩,
  ⟨re "^u?int[0-9]+\\[([0-9]+)?\\]$", lit "Array<BigInt>", .method "toBigIntArray", none⟩,
  ⟨re "^string\\[([0-9]+)?\\]$", lit "Array<string>", .method "toStringArray", none⟩,
  ⟨lit "tuple", lit "ethereum.Tuple", .tuple, none⟩,
  ⟨re "^tuple\\[([0-9]+)?\\]$", lit "Array<ethereum.Tuple>", .tupleArray, none⟩]

/-- Small unsigned integers are widened before they are written. -/
def unsignedFromI32 : Converter :=
  ⟨fun code _ => "ethereum.Value.fromUnsignedBigInt(BigInt.fromI32(" ++ code ++ "))"⟩

def runtimeToAbiRules : List Rule := [
  ⟨lit "Address", lit "address", .call "ethereum.Value.fromAddress", none⟩,
  ⟨lit "boolean", lit "bool", .call "ethereum.Value.fromBoolean", none⟩,
  ⟨lit "Bytes", lit "bytes", .call "ethereum.Value.fromBytes", none⟩,
  ⟨lit "Bytes", lit "byte", .call "ethereum.Value.fromFixedBytes", none⟩,
  ⟨lit "Bytes", re "^bytes[0-9]+$", .call "ethereum.Value.fromFixedBytes", none⟩,
  ⟨lit "i32", re "^int(8|16|24|32)$", .call "ethereum.Value.fromI32", none⟩,
  ⟨lit "i32", re "^uint(8|16|24)$", unsignedFromI32, none⟩,
  ⟨lit "BigInt", re "^uint[0-9]+$", .call "ethereum.Value.fromUnsignedBigInt", none⟩,
  ⟨lit "BigInt", re "^int[0-9]+$", .call "ethereum.Value.fromSignedBigInt", none⟩,
  ⟨lit "string", lit "string", .call "ethereum.Value.fromString", none⟩,
  ⟨lit "Array<Address>", re "^address\\[([0-9]+)?\\]$",
    .call "ethereum.Value.fromAddressArray", none⟩,
  ⟨lit "Array<boolean>", re "^bool\\[([0-9]+)?\\]$",
    .call "ethereum.Value.fromBooleanArray", none⟩,
  ⟨lit "Array<Bytes>", re "^byte\\[([0-9]+)?\\]$",
    .call "ethereum.Value.fromFixedBytesArray", none⟩,
  ⟨lit "Array<Bytes>", re "^bytes\\[([0-9]+)?\\]$", .call "ethereum.Value.fromBytesArray", none⟩,
  ⟨lit "Array<Bytes>", re "^bytes[0-9]+\\[([0-9]+)?\\]$",
    .call "ethereum.Value.fromFixedBytesArray", none⟩,
  ⟨lit "Array<i32>", re "^int(8|16|24|32)\\[([0-9]+)?\\]$",
    .call "ethereum.Value.fromI32Array", none⟩,
  ⟨lit "Array<i32>", re "^uint(8|16|24)\\[([0-9]+)?\\]$",
    .call "ethereum.Value.fromI32Array", none⟩,
  ⟨lit "Array<BigInt>", re "^uint[0-9]+\\[([0-9]+)?\\]$",
    .call "ethereum.Value.fromUnsignedBigIntArray", none⟩,
  ⟨lit "Array<BigInt>", re "^int[0-9]+\\[([0-9]+)?\\]$",
    .call "ethereum.Value.fromSignedBigIntArray", none⟩,
  ⟨lit "Array<string>", re "^string\\[([0-9]+)?\\]$",
    .call "ethereum.Value.fromStringArray", none⟩,
  ⟨lit "ethereum.Tuple", lit "tuple", .call "ethereum.Value.fromTuple", none⟩,
  ⟨lit "Array<ethereum.Tuple>", re "^tuple\\[([0-9]+)?\\]$",
    .call "ethereum.Value.fromTupleArray", none⟩]

def valueToRuntimeRules : List Rule := [
  ⟨lit "Bytes", lit "Bytes", .method "toBytes", none⟩,
  ⟨lit "Boolean", lit "boolean", .method "toBoolean", none⟩,
  ⟨lit "Int", lit "i32", .method "toI32", none⟩,
  ⟨lit "Int8", lit "i64", .method "toI64", none⟩,
  ⟨lit "BigInt", lit "BigInt", .method "toBigInt", none⟩,
  ⟨lit "ID", lit "string", .method "toString", none⟩,
  ⟨lit "String", lit "string", .method "toString", none⟩,
  ⟨lit "BigDecimal", lit "BigDecimal", .method "toBigDecimal", none⟩,
  ⟨re "^\\[Bytes\\]$", lit "Array<Bytes>", .method "toBytesArray", none⟩,
  ⟨re "^\\[Boolean\\]$", lit "Array<boolean>", .method "toBooleanArray", none⟩,
  ⟨re "^\\[Int\\]$", lit "Array<i32>", .method "toI32Array", none⟩,
  ⟨re "^\\[BigInt\\]$", lit "Array<BigInt>", .method "toBigIntArray", none⟩,
  ⟨re "^\\[(ID|String)\\]$", lit "Array<string>", .method "toStringArray", none⟩,
  ⟨re "^\\[BigDecimal\\]$", lit "Array<BigDecimal>", .method "toBigDecimalArray", none⟩,
  -- References to entities are stored by their identifier.
  ⟨re "^\\[.+\\]$", lit "Array<string>", .method "toStringArray", none⟩,
  ⟨re ".+", lit "string", .method "toString", none⟩]

def runtimeToValueRules : List Rule := [
  ⟨lit "Bytes", lit "Bytes", .call "Value.fromBytes", some "Bytes.empty()"⟩,
  ⟨lit "Address", lit "Bytes", .call "Value.fromBytes", some "Address.zero()"⟩,
  ⟨lit "boolean", lit "Boolean", .call "Value.fromBoolean", some "false"⟩,
  ⟨lit "i32", lit "Int", .call "Value.fromI32", some "0"⟩,
  ⟨lit "i64", lit "Int8", .call "Value.fromI64", some "0"⟩,
  ⟨lit "BigInt", lit "BigInt", .call "Value.fromBigInt", some "BigInt.zero()"⟩,
  ⟨lit "string", lit "String", .call "Value.fromString", some "''"⟩,
  ⟨lit "BigDecimal", lit "BigDecimal", .call "Value.fromBigDecimal", some "BigDecimal.zero()"⟩,
  ⟨lit "Array<Bytes>", re "^\\[Bytes\\]$", .call "Value.fromBytesArray", some "new Array(0)"⟩,
  ⟨lit "Array<boolean>", re "^\\[Boolean\\]$",
    .call "Value.fromBooleanArray", some "new Array(0)"⟩,
  ⟨lit "Array<i32>", re "^\\[Int\\]$", .call "Value.fromI32Array", some "new Array(0)"⟩,
  ⟨lit "Array<BigInt>", re "^\\[BigInt\\]$", .call "Value.fromBigIntArray", some "new Array(0)"⟩,
  ⟨lit "Array<BigDecimal>", re "^\\[BigDecimal\\]$",
    .call "Value.fromBigDecimalArray", some "new Array(0)"⟩,
  ⟨lit "Array<string>", re "^\\[.+\\]$", .call "Value.fromStringArray", some "new Array(0)"⟩,
  ⟨re "^Array<.+>$", re "^\\[.+\\]$", .call "Value.fromArray", some "new Array(0)"⟩,
  ⟨lit "Value", re ".+", .identity, some "Value.fromNull()"⟩]

end TypeExchange.Builtin

namespace TypeExchange

open Builtin in
def Table.builtin : Table := .ofSteps [
  .rules abiToRuntime abiToRuntimeRules,
  .rules runtimeToAbi runtimeToAbiRules,
  .rules valueToRuntime valueToRuntimeRules,
  .rules runtimeToValue runtimeToValueRules]

end TypeExchange
