import NatDiscovery.Ip.Text
import NatDiscovery.Endpoint

/-!
# `NatDiscovery.CommandLine.Arguments` — the options of the command line

Every option has a long name, some a letter. A value follows as the next argument or is attached:
`--port 80`, `--port=80`, `-P 80`, `-P80`, `-P=80`. The next argument is a value only if it does not
look like an option, that is, does not start with a dash or is a dash alone. Options that take a list
may be repeated, the others may not. There are no arguments besides options; two dashes may end them.

## Contents
- `Arguments`, `Opt`, `Opt.ofName?`, `Opt.ofLetter?`
- `Arguments.setFlag?`, `Arguments.give?`: what an option does to the arguments
- `Arguments.read?`, `Arguments.ofList?`
-/

namespace NatDiscovery

/-- What the command line asks for. -/
structure Arguments where
  stun : List String := []
  port : Option Port := none
  portRange : Option String := none
  loopback : Bool := false
  ip : List String := []
  excludeIp : List String := []
  nodeIp : Option IpAddr := none
  deriving DecidableEq, Repr

/-- The options. -/
inductive Opt where
  | stun
  | port
  | portRange
  | loopback
  | ip
  | excludeIp
  | nodeIp
  deriving DecidableEq, Repr

namespace Opt

/-- The option of a long name. -/
def ofName? : String → Option Opt
  | "stun" => some .stun
  | "port" => some .port
  | "port-range" => some .portRange
  | "loopback" => some .loopback
  | "ip" => some .ip
  | "exclude-ip" => some .excludeIp
  | "node-ip" => some .nodeIp
  | _ => none

/-- The option of a letter. -/
def ofLetter? : Char → Option Opt
  | 's' => some .stun
  | 'P' => some .port
  | 'r' => some .portRange
  | 'n' => some .nodeIp
  | _ => none

end Opt

/-- A port as the value of an option: a decimal numeral with any sign, as long as the number is a
port. -/
def readPortOption : List Char → Option Port
  -- Below zero there is no port, so only zeros may follow a minus sign.
  | '-' :: cs =>
    if cs.isEmpty then none else (Numeral.continueFrom 1 0 cs).toOption.map UInt16.ofNat
  | cs => (Numeral.readWhole 65536 cs).toOption.map UInt16.ofNat

namespace Arguments

/-- The arguments once a flag has been given, unless it has been already. -/
def setFlag? (a : Arguments) : Option Arguments :=
  if a.loopback then none else some { a with loopback := true }

/-- The arguments once an option has been given a value. An option that takes a single value must not
have one already. -/
def give? (a : Arguments) (o : Opt) (value : List Char) : Option Arguments :=
  match o with
  | .stun => some { a with stun := a.stun ++ [String.ofList value] }
  | .ip => some { a with ip := a.ip ++ [String.ofList value] }
  | .excludeIp => some { a with excludeIp := a.excludeIp ++ [String.ofList value] }
  | .port =>
    match a.port, readPortOption value with
    | none, some p => some { a with port := some p }
    | _, _ => none
  | .portRange =>
    match a.portRange with
    | none => some { a with portRange := some (String.ofList value) }
    | some _ => none
  | .nodeIp =>
    match a.nodeIp, IpAddr.ofText? value with
    | none, some ip => some { a with nodeIp := some ip }
    | _, _ => none
  | .loopback => none

/-- The argument can be the value of the option before it. -/
def isValue : List Char → Bool
  | ['-'] => true
  | '-' :: _ => false
  | _ => true

/-- The name before the first equals sign, and the value behind it if there is one. -/
def splitEquals : List Char → List Char × Option (List Char)
  | [] => ([], none)
  | '=' :: cs => ([], some cs)
  | c :: cs => (c :: (splitEquals cs).1, (splitEquals cs).2)

/-- What is attached to a letter: nothing, or a value behind an equals sign or not. -/
def attached : List Char → Option (List Char)
  | [] => none
  | '=' :: cs => some cs
  | cs => some cs

/-- An option with the value attached to it, if one is. -/
def readOption : List Char → Option (Opt × Option (List Char))
  | '-' :: '-' :: cs =>
    (Opt.ofName? (String.ofList (splitEquals cs).1)).map fun o => (o, (splitEquals cs).2)
  | '-' :: c :: cs => (Opt.ofLetter? c).map fun o => (o, attached cs)
  | _ => none

/-- Reads the arguments behind those read already. -/
def read? (a : Arguments) : List (List Char) → Option Arguments
  | [] => some a
  | arg :: args =>
    -- Nothing may follow the two dashes, since there are no arguments besides options.
    if arg = ['-', '-'] then
      if args.isEmpty then some a else none
    else
      match readOption arg with
      | none => none
      | some (.loopback, none) => a.setFlag?.bind fun a => a.read? args
      | some (o, some value) => (a.give? o value).bind fun a => a.read? args
      | some (o, none) =>
        match args with
        | [] => none
        | value :: args =>
          if isValue value then (a.give? o value).bind fun a => a.read? args else none

/-- What a list of arguments asks for, unless it is refused. -/
def ofList? (args : List String) : Option Arguments :=
  read? {} (args.map String.toList)

end Arguments

end NatDiscovery
