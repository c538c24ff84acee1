import NatDiscovery.Text.Printable

/-!
# `NatDiscovery.Text.Quoted` — a text between quotation marks

Messages quote the text that they complain about. Inside the quotation marks NUL, tab, line feed,
carriage return, the backslash and the quotation mark have a short form behind a backslash; every
other character that cannot be shown as itself is spelled by its code point in hexadecimal.
-/

namespace NatDiscovery.Quoted

/-- The code point of a character in hexadecimal, in braces behind a backslash and a `u`. -/
def spelled (c : Char) : List Char :=
  ['\\', 'u', '{'] ++ Nat.toDigits 16 c.toNat ++ ['}']

/-- How a character is written inside the quotation marks. -/
def escape (c : Char) : List Char :=
  match c with
  | '\x00' => ['\\', '0']
  | '\t' => ['\\', 't']
  | '\n' => ['\\', 'n']
  | '\r' => ['\\', 'r']
  | '\\' => ['\\', '\\']
  | '"' => ['\\', '"']
  | c => if isPrintable c then [c] else spelled c

/-- The text between quotation marks. -/
def quote (s : String) : String :=
  String.ofList ('"' :: (s.toList.flatMap escape ++ ['"']))

end NatDiscovery.Quoted
