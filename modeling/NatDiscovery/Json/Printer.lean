import NatDiscovery.Json.Value

/-!
# `NatDiscovery.Json.Printer` — from JSON values to text

Values are written without blanks. In a text the quotation mark, the backslash and the controls below
the space are escaped, by a letter where there is one; everything else stands for itself.
-/

namespace NatDiscovery.Json

/-- A control below the space by its number, in four hexadecimal digits. -/
def escapeControl (c : Char) : List Char :=
  ['\\', 'u', '0', '0', Nat.digitChar (c.toNat / 16), Nat.digitChar (c.toNat % 16)]

/-- How a character is written in a text. -/
def escapeChar (c : Char) : List Char :=
  match c with
  | '"' => ['\\', '"']
  | '\\' => ['\\', '\\']
  | '\x08' => ['\\', 'b']
  | '\t' => ['\\', 't']
  | '\n' => ['\\', 'n']
  | '\x0c' => ['\\', 'f']
  | '\r' => ['\\', 'r']
  | c => if c.toNat < 0x20 then escapeControl c else [c]

/-- A text between quotation marks. One that names nothing is written as half a character. -/
def writeText : Option (List Char) → List Char
  | some cs => '"' :: (cs.flatMap escapeChar ++ ['"'])
  | none => ['"', '\\', 'u', 'd', '8', '0', '0', '"']

mutual

/-- A value without blanks. -/
def toText : Json → List Char
  | .null => ['n', 'u', 'l', 'l']
  | .bool true => ['t', 'r', 'u', 'e']
  | .bool false => ['f', 'a', 'l', 's', 'e']
  | .natural n => Nat.toDigits 10 n
  | .number cs => cs
  | .text t => writeText t
  | .array items => '[' :: (writeItems items ++ [']'])
  | .object members => '{' :: (writeMembers members ++ ['}'])

/-- Items with commas between them. -/
def writeItems : List Json → List Char
  | [] => []
  | [item] => toText item
  | item :: items => toText item ++ ',' :: writeItems items

/-- Members with commas between them. -/
def writeMembers : List (Option (List Char) × Json) → List Char
  | [] => []
  | [(name, value)] => writeText name ++ ':' :: toText value
  | (name, value) :: members => writeText name ++ ':' :: (toText value ++ ',' :: writeMembers members)

end

/-- The text of a value as a string. -/
def write (j : Json) : String :=
  String.ofList j.toText

end NatDiscovery.Json
