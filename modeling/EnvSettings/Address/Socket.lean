/-
Network addresses of either family, alone and with a port. An address of eight groups stands in
brackets before its port, and may name a scope there.
-/
import EnvSettings.Address.Ipv6

namespace EnvSettings.Address

-- ========================================================== either family

/-- An address of either kind. -/
inductive Ip
  | v4 (ip : Ipv4)
  | v6 (ip : Ipv6)
  deriving Repr, DecidableEq

/-- Reads a whole text as an address of four octets. -/
def Ipv4.ofText? (s : String) : Option Ipv4 := atEnd (Ipv4.read s.toList)

/-- Reads a whole text as an address of eight groups. -/
def Ipv6.ofText? (s : String) : Option Ipv6 := atEnd (Ipv6.read s.toList)

/-- Reads a whole text as an address of either family. -/
def Ip.ofText? (s : String) : Option Ip :=
  match Ipv4.read s.toList with
  | some (ip, rest) => atEnd (some (.v4 ip, rest))
  | none => (Ipv6.ofText? s).map .v6

/-- Writes an address. -/
def Ip.text : Ip → String
  | .v4 ip => ip.text
  | .v6 ip => ip.text

-- ================================================================= sockets

/-- The number of a port. -/
abbrev Port := Fin 65536

/-- An address with a port; scope zero is no scope. -/
inductive Socket
  | v4 (ip : Ipv4) (port : Port)
  | v6 (ip : Ipv6) (scope : Fin 4294967296) (port : Port)
  deriving Repr, DecidableEq

namespace Socket

/-- Port 0 of no host. -/
def unspecified : Socket := .v4 .unspecified ⟨0, by decide⟩

/-- Reads a colon and a port, and leaves the rest. -/
def readPort (cs : List Char) : Option (Port × List Char) := do
  let cs ← readChar ':' cs
  readNumber 10 65536 cs

/-- Reads a scope with the percent sign before it; without one the scope is zero. -/
def readScope (cs : List Char) : Fin 4294967296 × List Char :=
  ((readChar '%' cs).bind (readNumber 10 4294967296)).getD (0, cs)

/-- Reads an address of four octets and a port. -/
def readV4 (cs : List Char) : Option (Socket × List Char) := do
  let (ip, cs) ← Ipv4.read cs
  let (port, cs) ← readPort cs
  return (.v4 ip port, cs)

/-- Reads a bracketed address of eight groups, with or without a scope, and a port. -/
def readV6 (cs : List Char) : Option (Socket × List Char) := do
  let cs ← readChar '[' cs
  let (ip, cs) ← Ipv6.read cs
  let (scope, cs) := readScope cs
  let cs ← readChar ']' cs
  let (port, cs) ← readPort cs
  return (.v6 ip scope port, cs)

/-- Reads a whole text as an address with a port. -/
def ofText? (s : String) : Option Socket :=
  match readV4 s.toList with
  | some (socket, rest) => atEnd (some (socket, rest))
  | none => atEnd (readV6 s.toList)

/-- Writes an address with its port. -/
def text : Socket → String
  | .v4 ip port => s!"{ip.text}:{port.val}"
  | .v6 ip scope port =>
    if scope.val = 0 then s!"[{ip.text}]:{port.val}"
    else s!"[{ip.text}%{scope.val}]:{port.val}"

end Socket

end EnvSettings.Address
