/-!
# ProbeLink.Json.Basic

**JSON values** as they stand in a text, with nothing decided that a reader of the value may want
to decide for itself:

* a number keeps its spelling, so `1`, `1.0` and `1e0` stay apart;
* an object keeps its members in order, repeated names included;
* a string is `none` if its escapes leave half of a surrogate pair alone. Such a string is well
  formed, but it is no text.
-/

namespace ProbeLink

/-- A JSON value. -/
inductive Json
  | null
  | bool (value : Bool)
  | number (spelling : String)
  | string (text : Option String)
  | array (items : List Json)
  | object (members : List (Option String × Json))
  deriving Repr

namespace Json

/-- Is the value the literal `null`? -/
def isNull : Json → Bool
  | .null => true
  | _ => false

/-- The text of a string. -/
def text? : Json → Option String
  | .string text => text
  | _ => none

/-- The values of the members with this name. -/
def named (name : String) (members : List (Option String × Json)) : List Json :=
  (members.filter fun member => member.1 == some name).map (·.2)

/-- The first member with this name. -/
def member? (name : String) : Json → Option Json
  | .object members => (named name members).head?
  | _ => none

end Json

end ProbeLink
