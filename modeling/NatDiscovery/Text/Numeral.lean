/-!
# `NatDiscovery.Text.Numeral` — unsigned numerals

Two ways to read an unsigned number occur in this library. Inside a longer text (an address, a
port after it) a `Numeral.Form` reads the longest run of digits at the head and says which runs it
takes. A whole text is read by `Numeral.readWhole`, which names the cause when it refuses.

## Contents
- `digit?`, `ofDigits`, `digitRun`: digits and the number they spell
- `Form`, `Form.read`: a numeral at the head of a text
- `Fault`, `readWhole`: a text that is one decimal numeral
- `write`: the digits of a number without leading zeros
-/

namespace NatDiscovery.Numeral

/-! ## Digits -/

/-- The value of a digit of the base (letters in either case stand for ten and up). -/
def digit? (base : Nat) (c : Char) : Option Nat :=
  let value :=
    if '0' ≤ c ∧ c ≤ '9' then some (c.toNat - '0'.toNat)
    else if 'a' ≤ c ∧ c ≤ 'z' then some (c.toNat - 'a'.toNat + 10)
    else if 'A' ≤ c ∧ c ≤ 'Z' then some (c.toNat - 'A'.toNat + 10)
    else none
  value.filter (· < base)

/-- The number that the digits spell, most significant first. -/
def ofDigits (base : Nat) (digits : List Nat) : Nat :=
  digits.foldl (fun n d => n * base + d) 0

/-- The longest run of digits at the head of a text, and the text behind it. -/
def digitRun (base : Nat) : List Char → List Nat × List Char
  | [] => ([], [])
  | c :: cs =>
    match digit? base c with
    | none => ([], c :: cs)
    | some d => (d :: (digitRun base cs).1, (digitRun base cs).2)

/-! ## A numeral at the head of a text -/

/-- Which runs of digits are a numeral. -/
structure Form where
  /-- The base of the digits. -/
  base : Nat
  /-- The most digits, or no limit. -/
  maxDigits : Option Nat
  /-- The numbers allowed are those below. -/
  bound : Nat
  /-- Several digits may start with a zero. -/
  leadingZeros : Bool

/-- The run of digits is a numeral of this form. -/
def Form.accepts (f : Form) (digits : List Nat) : Bool :=
  !digits.isEmpty
    && f.maxDigits.all (digits.length ≤ ·)
    && ofDigits f.base digits < f.bound
    && (f.leadingZeros || digits.head? != some 0 || digits.length == 1)

/-- The numeral at the head of a text, which takes every digit there is. -/
def Form.read (f : Form) (cs : List Char) : Option (Nat × List Char) :=
  let run := digitRun f.base cs
  if f.accepts run.1 then some (ofDigits f.base run.1, run.2) else none

theorem Form.read_lt {f : Form} {cs rest : List Char} {n : Nat} (h : f.read cs = some (n, rest)) :
    n < f.bound := by
  simp only [Form.read, Option.ite_none_right_eq_some, Option.some.injEq, Prod.mk.injEq] at h
  obtain ⟨ha, rfl, _⟩ := h
  simp only [Form.accepts, Bool.and_eq_true, decide_eq_true_eq] at ha
  exact ha.1.2

/-! ## A whole text -/

/-- Why a text is not a decimal numeral below the bound. -/
inductive Fault where
  /-- There is nothing to read. -/
  | empty
  /-- A character is not a digit. -/
  | invalidDigit
  /-- The digits so far spell a number at or above the bound. -/
  | tooLarge
  deriving DecidableEq, Repr

/-- The wording of a fault. -/
def Fault.message : Fault → String
  | .empty => "cannot parse integer from empty string"
  | .invalidDigit => "invalid digit found in string"
  | .tooLarge => "number too large to fit in target type"

/-- Reads the digits of `cs` behind those that spelled `n`. The first character that is no digit,
or that takes the number to the bound, decides the fault. -/
def continueFrom (bound : Nat) : Nat → List Char → Except Fault Nat
  | n, [] => .ok n
  | n, c :: cs =>
    match digit? 10 c with
    | none => .error .invalidDigit
    | some d => if n * 10 + d < bound then continueFrom bound (n * 10 + d) cs else .error .tooLarge

/-- Reads a text that is a decimal numeral below the bound, with a `+` allowed before it and any
number of leading zeros. -/
def readWhole (bound : Nat) : List Char → Except Fault Nat
  | [] => .error .empty
  | ['+'] => .error .invalidDigit
  | '+' :: cs => continueFrom bound 0 cs
  | cs => continueFrom bound 0 cs

/-! ## Writing -/

/-- The digits of a number, in lower case and without leading zeros. -/
def write (base n : Nat) : List Char :=
  Nat.toDigits base n

end NatDiscovery.Numeral
