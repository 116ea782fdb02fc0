import TypeExchange.Unicode.Property

/-! The classes of characters that reading and printing texts ask for, in version 17 of the
character set: those of the property tables and what was added since. -/
namespace TypeExchange.Unicode

/-- The code points that were assigned after the property tables. -/
def addedRuns : List Run := runsOfLines [
  "88f c5c cdc 1acf-1add 1ae0-1aeb 20c1 2b96 a7ce-a7cf a7d2 a7d4 a7f1 fbc3-fbd2 fd90-fd91",
  "fdc8-fdce 10940-10959 10ec5-10ec7 10ed0-10ed8 10efa-10efb 11b60-11b67 11db0-11ddb 11de0-11de9",
  "16ea0-16eb8 16ebb-16ed3 16ff2-16ff6 187f8-187ff 18d09-18d1e 18d80-18df2 1ccfa-1ccfc",
  "1ceba-1ced0 1cee0-1cef0 1e6c0-1e6de 1e6e0-1e6f5 1e6fe-1e6ff 1f6d8 1f777-1f77a 1f8d0-1f8d8",
  "1fa54-1fa57 1fa8a 1fa8e 1fac8 1facd 1faea 1faef 1fbfa 2b73a-2b73f 2cea2-2cead 323b0-33479"]

def addedCasedRuns : List Run := runsOfLines ["a7ce-a7cf a7d2 a7d4 a7f1 16ea0-16eb8 16ebb-16ed3"]

def addedCaseIgnorableRuns : List Run := runsOfLines [
  "1acf-1add 1ae0-1aeb a7f1 10ec5 10efa-10efb 11b60 11b62-11b64 11b66 11dd9 16ff2-16ff3 1e6e3",
  "1e6e6 1e6ee-1e6ef 1e6f5 1e6ff"]

def addedAlphabeticRuns : List Run := runsOfLines [
  "88f c5c cdc a7ce-a7cf a7d2 a7d4 a7f1 10940-10959 10ec5-10ec7 10efa-10efb 11b60-11b67",
  "11db0-11ddb 16ea0-16eb8 16ebb-16ed3 16ff2-16ff6 187f8-187ff 18d09-18d1e 18d80-18df2",
  "1e6c0-1e6de 1e6e0-1e6f5 1e6fe-1e6ff 2b73a-2b73f 2cea2-2cead 323b0-33479"]

def addedNumericRuns : List Run := runsOfLines ["11de0-11de9 16ff4-16ff6"]

def addedMarkRuns : List Run := runsOfLines [
  "1acf-1add 1ae0-1aeb 10efa-10efb 11b60 11b62-11b64 11b66 1e6e3 1e6e6 1e6ee-1e6ef 1e6f5"]

def property (name : String) : List Run := (propertyNamed name.toList).getD []

def categories (keys : List String) : List Run := keys.flatMap fun key => (category key).getD []

def caseIgnorableRuns : List Run := property "caseignorable" ++ addedCaseIgnorableRuns
def casedRuns : List Run := property "cased" ++ addedCasedRuns
def alphabeticRuns : List Run := property "alphabetic" ++ addedAlphabeticRuns
def numericRuns : List Run := categories ["n"] ++ addedNumericRuns

/-- Characters that extend the one before them. -/
def extenderRuns : List Run := property "graphemeextend" ++ addedMarkRuns

/-- Controls, formats, private characters and separators, and what a reader is to ignore. -/
def controlRuns : List Run :=
  categories ["cc", "cf", "co", "z"] ++ property "defaultignorablecodepoint"

def unassignedRuns : List Run := categories ["cn"]

def isCaseIgnorable (c : Char) : Bool := inRuns caseIgnorableRuns c

/-- The pharyngeal fricative has lost its case. -/
def isCased (c : Char) : Bool := c != '\u0295' && inRuns casedRuns c

def isAlphabetic (c : Char) : Bool := inRuns alphabeticRuns c
def isNumeric (c : Char) : Bool := inRuns numericRuns c
def isAssigned (c : Char) : Bool := inRuns addedRuns c || !inRuns unassignedRuns c

/-- The halfwidth voicing marks extend a character but take a place of their own. -/
def isHalfwidthMark (c : Char) : Bool := c == '\uff9e' || c == '\uff9f'

/-- Whether the character is seen where it stands alone. -/
def isVisible (c : Char) : Bool :=
  isAssigned c && !inRuns controlRuns c && (isHalfwidthMark c || !inRuns extenderRuns c)

end TypeExchange.Unicode
