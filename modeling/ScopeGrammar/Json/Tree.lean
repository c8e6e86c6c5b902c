import ScopeGrammar.Json.Token

/-!
# JSON values

A JSON value as far as it could be read. Where the text breaks off or goes wrong, the value holds
`damaged` in the place of a value and `cut` in the place of the end of an array or object, so that
someone who goes through a value in the order of its text meets everything that precedes the damage
first.
-/

namespace ScopeGrammar

mutual

/-- A JSON value. -/
inductive Json where
  | null
  | bool (value : Bool)
  | number (n : JsonNumber)
  /-- A string; `none` if its escapes do not make up characters. -/
  | string (text : Option String)
  | array (items : JsonItems)
  | object (members : JsonMembers)
  /-- No value could be read. -/
  | damaged

/-- The items of an array, in order. -/
inductive JsonItems where
  /-- The array ends. -/
  | closed
  /-- The text goes on with something else. -/
  | cut
  | item (value : Json) (rest : JsonItems)

/-- The members of an object, in order. -/
inductive JsonMembers where
  /-- The object ends. -/
  | closed
  /-- The text goes on with something else. -/
  | cut
  | member (key : Option String) (value : Json) (rest : JsonMembers)

end

instance : Inhabited Json := ⟨.null⟩

mutual

/-- Whether the value was read to its end. -/
def Json.isIntact : Json → Bool
  | .null | .bool _ | .number _ | .string _ => true
  | .array items => items.isIntact
  | .object members => members.isIntact
  | .damaged => false

/-- Whether all items were read to their ends. -/
def JsonItems.isIntact : JsonItems → Bool
  | .closed => true
  | .cut => false
  | .item value rest => value.isIntact && rest.isIntact

/-- Whether all members were read to their ends. -/
def JsonMembers.isIntact : JsonMembers → Bool
  | .closed => true
  | .cut => false
  | .member _ value rest => value.isIntact && rest.isIntact

end

namespace JsonItems

/-- The items of a list, the last one first, before those that are given. -/
def prepend (reversed : List Json) (rest : JsonItems) : JsonItems :=
  reversed.foldl (fun rest value ↦ item value rest) rest

/-- The items as a list. -/
def toList : JsonItems → List Json
  | closed | cut => []
  | item value rest => value :: rest.toList

end JsonItems

namespace JsonMembers

/-- The members of a list, the last one first, before those that are given. -/
def prepend (reversed : List (Option String × Json)) (rest : JsonMembers) : JsonMembers :=
  reversed.foldl (fun rest m ↦ member m.1 m.2 rest) rest

/-- The members as a list. -/
def toList : JsonMembers → List (Option String × Json)
  | closed | cut => []
  | member key value rest => (key, value) :: rest.toList

end JsonMembers

end ScopeGrammar
