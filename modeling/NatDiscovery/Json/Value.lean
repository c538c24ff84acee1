/-!
# `NatDiscovery.Json.Value` — JSON values

A value keeps what a reader of it may ask for: the members of an object in their order, repetitions
included, and numbers apart by spelling, since only a plain run of digits is a natural number. The
escapes of a text can spell half a character; such a text is kept as one that names nothing, because
it is an error only where a text is wanted.
-/

namespace NatDiscovery

/-- A JSON value. -/
inductive Json where
  | null
  | bool (value : Bool)
  /-- A number written as digits alone. -/
  | natural (value : Nat)
  /-- A number with a sign, a fraction or an exponent, as it is written. -/
  | number (literal : List Char)
  /-- A text; none when its escapes do not spell whole characters. -/
  | text (value : Option (List Char))
  | array (items : List Json)
  | object (members : List (Option (List Char) × Json))
  deriving Inhabited

namespace Json

/-- The text of a string. -/
def ofString (s : String) : Json :=
  .text (some s.toList)

/-- A list of texts. -/
def ofStrings (ss : List String) : Json :=
  .array (ss.map ofString)

/-- An object whose members have these names. -/
def ofFields (fields : List (String × Json)) : Json :=
  .object (fields.map fun f => (some f.1.toList, f.2))

end Json

end NatDiscovery
