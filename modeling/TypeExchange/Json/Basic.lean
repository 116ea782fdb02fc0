/-! JSON values. -/
namespace TypeExchange

inductive Json where
  | null
  | bool (b : Bool)
  | integer (n : Int)
  /-- A number that is no 64-bit integer, by the shortest decimal text of the nearest double. -/
  | real (text : String)
  | string (s : String)
  | array (items : List Json)
  | object (members : List (String × Json))
  deriving Inhabited, Repr

namespace Json

/-- Puts a member at the place of its key; a later value replaces an earlier one. -/
def insertMember (key : String) (value : Json) : List (String × Json) → List (String × Json)
  | [] => [(key, value)]
  | (k, v) :: rest =>
    if key < k then (key, value) :: (k, v) :: rest
    else if key = k then (key, value) :: rest
    else (k, v) :: insertMember key value rest

end Json
end TypeExchange
