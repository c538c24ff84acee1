import NatDiscovery.Json.Value
import NatDiscovery.Ip.Text

/-!
# `NatDiscovery.Json.Reader` — from text to JSON values

The grammar of JSON: blanks are space, tab, line feed and carriage return; a number has no
superfluous leading zero; a text holds no unescaped control character below the space. Nothing may
follow the value but blanks.

A text is read in two passes: first its pieces, which are characters and 16-bit units spelled by
escapes, then the characters that the pieces make, where two surrogate units make one.

## Contents
- `skipBlanks`, `literal`
- `Piece`, `readPieces`, `joinPieces`, `readText`
- `readNumber`
- `readValue`, `readItems`, `readMembers`: mutual, with the text's length as a bound on the depth
- `Json.ofText?`
-/

namespace NatDiscovery.Json

/-! ## Small things -/

/-- The blanks between the parts of a value. -/
def isBlankChar (c : Char) : Bool :=
  c = ' ' || c = '\t' || c = '\n' || c = '\r'

/-- The text behind the blanks at its head. -/
def skipBlanks (cs : List Char) : List Char :=
  cs.dropWhile isBlankChar

/-- The text behind a word at its head. -/
def literal : (word : List Char) → List Char → Option (List Char)
  | [], cs => some cs
  | _ :: _, [] => none
  | w :: word, c :: cs => if c = w then literal word cs else none

/-! ## Texts -/

/-- A part of a text: a character, or a unit spelled by its number. -/
inductive Piece where
  | char (c : Char)
  | unit (value : Nat)

/-- The number of four hexadecimal digits. -/
def unit? (a b c d : Char) : Option Nat := do
  let a ← Numeral.digit? 16 a
  let b ← Numeral.digit? 16 b
  let c ← Numeral.digit? 16 c
  let d ← Numeral.digit? 16 d
  return Numeral.ofDigits 16 [a, b, c, d]

/-- The character behind a backslash. -/
def escaped? : Char → Option Char
  | '"' => some '"'
  | '\\' => some '\\'
  | '/' => some '/'
  | 'b' => some '\x08'
  | 'f' => some '\x0c'
  | 'n' => some '\n'
  | 'r' => some '\r'
  | 't' => some '\t'
  | _ => none

/-- The pieces of a text whose quotation mark has been read, up to the closing one. -/
def readPieces : List Char → Option (List Piece × List Char)
  | [] => none
  | '"' :: cs => some ([], cs)
  | '\\' :: 'u' :: a :: b :: c :: d :: cs => do
    let value ← unit? a b c d
    let (pieces, rest) ← readPieces cs
    return (.unit value :: pieces, rest)
  | '\\' :: e :: cs => do
    let c ← escaped? e
    let (pieces, rest) ← readPieces cs
    return (.char c :: pieces, rest)
  | c :: cs =>
    if c.toNat < 0x20 || c = '\\' then none
    else do
      let (pieces, rest) ← readPieces cs
      return (.char c :: pieces, rest)

/-- The first unit of a pair. -/
def isHighSurrogate (u : Nat) : Bool :=
  0xD800 ≤ u && u ≤ 0xDBFF

/-- The second unit of a pair. -/
def isLowSurrogate (u : Nat) : Bool :=
  0xDC00 ≤ u && u ≤ 0xDFFF

/-- The characters that pieces make; none when a surrogate stands alone. -/
def joinPieces : List Piece → Option (List Char)
  | [] => some []
  | .char c :: ps => (joinPieces ps).map (c :: ·)
  | .unit u :: ps =>
    if isHighSurrogate u then
      match ps with
      | .unit v :: ps =>
        if isLowSurrogate v then
          (joinPieces ps).map
            (Char.ofNat (0x10000 + (u - 0xD800) * 0x400 + (v - 0xDC00)) :: ·)
        else none
      | _ => none
    else if isLowSurrogate u then none
    else (joinPieces ps).map (Char.ofNat u :: ·)

/-- A text whose quotation mark has been read. -/
def readText (cs : List Char) : Option (Option (List Char) × List Char) :=
  (readPieces cs).map fun r => (joinPieces r.1, r.2)

/-! ## Numbers -/

/-- One or more digits, as characters. -/
def readDigits (cs : List Char) : Option (List Char × List Char) :=
  let digits := cs.takeWhile Char.isDigit
  if digits.isEmpty then none else some (digits, cs.dropWhile Char.isDigit)

/-- The digits of the whole part: a zero alone, or digits that do not start with one. -/
def readWholePart : List Char → Option (List Char × List Char)
  | '0' :: cs => some (['0'], cs)
  | cs => readDigits cs

/-- A fraction, if there is one. -/
def readFraction : List Char → Option (List Char × List Char)
  | '.' :: cs => (readDigits cs).map fun r => ('.' :: r.1, r.2)
  | cs => some ([], cs)

/-- The sign of an exponent, if there is one. -/
def readSign : List Char → List Char × List Char
  | '+' :: cs => (['+'], cs)
  | '-' :: cs => (['-'], cs)
  | cs => ([], cs)

/-- An exponent, if there is one. -/
def readExponent : List Char → Option (List Char × List Char)
  | [] => some ([], [])
  | c :: cs =>
    if c = 'e' || c = 'E' then
      (readDigits (readSign cs).2).map fun r => (c :: ((readSign cs).1 ++ r.1), r.2)
    else some ([], c :: cs)

/-- A number at the head of a text. -/
def readNumber (cs : List Char) : Option (Json × List Char) := do
  let (sign, cs) : List Char × List Char :=
    match cs with
    | '-' :: cs => (['-'], cs)
    | cs => ([], cs)
  let (whole, cs) ← readWholePart cs
  let (fraction, cs) ← readFraction cs
  let (exponent, cs) ← readExponent cs
  if sign.isEmpty && fraction.isEmpty && exponent.isEmpty then
    return (.natural (Nat.ofDigitChars 10 whole 0), cs)
  else
    return (.number (sign ++ whole ++ fraction ++ exponent), cs)

/-! ## Values -/

mutual

/-- A value at the head of a text, nested no deeper than the bound. -/
def readValue : (depth : Nat) → List Char → Option (Json × List Char)
  | 0, _ => none
  | depth + 1, cs =>
    match cs with
    | 'n' :: _ => (literal ['n', 'u', 'l', 'l'] cs).map fun cs => (.null, cs)
    | 't' :: _ => (literal ['t', 'r', 'u', 'e'] cs).map fun cs => (.bool true, cs)
    | 'f' :: _ => (literal ['f', 'a', 'l', 's', 'e'] cs).map fun cs => (.bool false, cs)
    | '"' :: cs => (readText cs).map fun r => (.text r.1, r.2)
    | '[' :: cs =>
      match skipBlanks cs with
      | ']' :: cs => some (.array [], cs)
      | cs => (readItems depth cs).map fun r => (.array r.1, r.2)
    | '{' :: cs =>
      match skipBlanks cs with
      | '}' :: cs => some (.object [], cs)
      | cs => (readMembers depth cs).map fun r => (.object r.1, r.2)
    | cs => readNumber cs

/-- One or more items and the closing bracket. -/
def readItems : (depth : Nat) → List Char → Option (List Json × List Char)
  | 0, _ => none
  | depth + 1, cs => do
    let (item, cs) ← readValue depth cs
    match skipBlanks cs with
    | ',' :: cs =>
      let (items, cs) ← readItems depth (skipBlanks cs)
      return (item :: items, cs)
    | ']' :: cs => return ([item], cs)
    | _ => none

/-- One or more members and the closing brace. -/
def readMembers : (depth : Nat) → List Char → Option (List (Option (List Char) × Json) × List Char)
  | 0, _ => none
  | depth + 1, cs => do
    let cs ← expect '"' cs
    let (name, cs) ← readText cs
    let cs ← expect ':' (skipBlanks cs)
    let (value, cs) ← readValue depth (skipBlanks cs)
    match skipBlanks cs with
    | ',' :: cs =>
      let (members, cs) ← readMembers depth (skipBlanks cs)
      return ((name, value) :: members, cs)
    | '}' :: cs => return ([(name, value)], cs)
    | _ => none

end

/-- The value that a text spells. -/
def ofText? (cs : List Char) : Option Json := do
  let (value, rest) ← readValue (cs.length + 1) (skipBlanks cs)
  if (skipBlanks rest).isEmpty then some value else none

end NatDiscovery.Json
