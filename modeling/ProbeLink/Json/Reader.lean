import ProbeLink.Json.Token

/-!
# ProbeLink.Json.Reader

**Reading a JSON text** strictly: one value, no trailing commas, no comments.

The reader takes one token after the other. Its state is what may come next (`Expecting`) and the
containers that are still open (`Frame`), innermost first, so nesting costs no recursion and a text
of any depth is read.
-/

namespace ProbeLink.Json

/-- A container whose end is still to come, with what it holds so far, last first. -/
inductive Frame
  | array (items : List Json)
  | object (members : List (Option String × Json))
  | member (members : List (Option String × Json)) (name : Option String)

/-- What may come next. -/
inductive Expecting
  /-- A value. -/
  | value
  /-- A value, or the end of the array that has just begun. -/
  | firstItem
  /-- A name, or the end of the object that has just begun. -/
  | firstName
  /-- A name. -/
  | name
  /-- The colon after a name. -/
  | colon (name : Option String)
  /-- What follows a complete value: a comma or an end, or nothing. -/
  | afterValue (value : Json)

/-- A reader in the middle of a text. -/
structure Reader where
  expecting : Expecting
  stack : List Frame

namespace Reader

/-- A reader at the start of a text. -/
def start : Reader := ⟨.value, []⟩

/-- Takes the first token of a value. -/
def openValue (stack : List Frame) : Token → Option Reader
  | .null => some ⟨.afterValue .null, stack⟩
  | .bool value => some ⟨.afterValue (.bool value), stack⟩
  | .number spelling => some ⟨.afterValue (.number spelling), stack⟩
  | .string text => some ⟨.afterValue (.string text), stack⟩
  | .openArray => some ⟨.firstItem, .array [] :: stack⟩
  | .openObject => some ⟨.firstName, .object [] :: stack⟩
  | _ => none

/-- Takes one token; `none` if it may not come here. -/
def step (reader : Reader) (token : Token) : Option Reader :=
  match reader.expecting, token, reader.stack with
  | .value, token, stack => openValue stack token
  | .firstItem, .closeArray, _ :: stack => some ⟨.afterValue (.array []), stack⟩
  | .firstItem, token, stack => openValue stack token
  | .firstName, .closeObject, _ :: stack => some ⟨.afterValue (.object []), stack⟩
  | .firstName, .string name, stack => some ⟨.colon name, stack⟩
  | .name, .string name, stack => some ⟨.colon name, stack⟩
  | .colon name, .colon, .object members :: stack => some ⟨.value, .member members name :: stack⟩
  | .afterValue value, .comma, .array items :: stack =>
    some ⟨.value, .array (value :: items) :: stack⟩
  | .afterValue value, .closeArray, .array items :: stack =>
    some ⟨.afterValue (.array (value :: items).reverse), stack⟩
  | .afterValue value, .comma, .member members name :: stack =>
    some ⟨.name, .object ((name, value) :: members) :: stack⟩
  | .afterValue value, .closeObject, .member members name :: stack =>
    some ⟨.afterValue (.object ((name, value) :: members).reverse), stack⟩
  | _, _, _ => none

/-- The value, if the text may end here. -/
def finish? (reader : Reader) : Option Json :=
  match reader with
  | ⟨.afterValue value, []⟩ => some value
  | _ => none

end Reader

/-- Reads a JSON text. -/
def ofText? (text : String) : Option Json := do
  let tokens ← Token.ofText? text.toList
  let reader ← tokens.foldlM Reader.step .start
  reader.finish?

end ProbeLink.Json
