import NatDiscovery.CandidatePorts
import NatDiscovery.Text.Blank

/-!
# `NatDiscovery.CommandLine.PortRange` — a port range as an argument

Two decimal numerals with a dash between them, each with blanks around it or not. The range is not
checked here: it may be empty or turned around.
-/

namespace NatDiscovery

/-- Why a text is not a port range. -/
inductive PortRangeError where
  /-- There is no dash. -/
  | noDash (text : String)
  /-- What stands before the dash is not a port. -/
  | start (fault : Numeral.Fault)
  /-- What stands behind the dash is not a port. -/
  | stop (fault : Numeral.Fault)
  deriving DecidableEq, Repr

namespace PortRangeError

/-- The wording of a fault. -/
def message : PortRangeError → String
  | noDash text => "--port-range expects <start>-<end>, got " ++ text
  | start _ => "--port-range start"
  | stop _ => "--port-range end"

/-- The wording of what lies beneath a fault. -/
def causes : PortRangeError → List String
  | noDash _ => []
  | start fault => [fault.message]
  | stop fault => [fault.message]

end PortRangeError

/-- What stands before and after the first `x` of a text. -/
def splitFirst (x : Char) : List Char → Option (List Char × List Char)
  | [] => none
  | c :: cs => if c = x then some ([], cs) else (splitFirst x cs).map fun r => (c :: r.1, r.2)

theorem splitFirst_eq_some_iff {x : Char} {cs before after : List Char} :
    splitFirst x cs = some (before, after) ↔ cs = before ++ x :: after ∧ x ∉ before := by
  induction cs generalizing before with
  | nil => simp [splitFirst]
  | cons c cs ih =>
    by_cases hc : c = x
    · subst hc
      cases before with
      | nil => simp [splitFirst]
      | cons b before =>
        simp only [splitFirst, if_true, Option.some.injEq, Prod.mk.injEq, List.nil_eq, reduceCtorEq,
          false_and, List.cons_append, List.cons.injEq, List.mem_cons, not_or, false_iff]
        rintro ⟨⟨rfl, _⟩, h, _⟩
        exact h rfl
    · cases before with
      | nil => simp [splitFirst, hc]
      | cons b before =>
        simp only [splitFirst, hc, if_false, Option.map_eq_some_iff, Prod.exists, Prod.mk.injEq,
          List.cons.injEq, List.cons_append, List.mem_cons, not_or]
        constructor
        · rintro ⟨b', a', h, ⟨rfl, rfl⟩, rfl⟩
          obtain ⟨rfl, hn⟩ := ih.1 h
          exact ⟨⟨rfl, rfl⟩, Ne.symm hc, hn⟩
        · rintro ⟨⟨rfl, rfl⟩, _, hn⟩
          exact ⟨before, after, ih.2 ⟨rfl, hn⟩, ⟨rfl, rfl⟩, rfl⟩

/-- A port with blanks around it or not. -/
def readPortText (cs : List Char) : Except Numeral.Fault Port :=
  (Numeral.readWhole 65536 (trim cs)).map UInt16.ofNat

/-- The port range that a text spells. -/
def PortRange.parse (s : String) : Except PortRangeError PortRange :=
  match splitFirst '-' s.toList with
  | none => .error (.noDash s)
  | some (before, after) =>
    match readPortText before with
    | .error fault => .error (.start fault)
    | .ok start =>
      match readPortText after with
      | .error fault => .error (.stop fault)
      | .ok stop => .ok ⟨start, stop⟩

end NatDiscovery
