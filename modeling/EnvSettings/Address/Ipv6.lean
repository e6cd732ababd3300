/-
Addresses of eight groups of sixteen bits. Written, the groups are hexadecimal numbers between
colons; one run of zero groups may shrink to a double colon, and the last two groups may be
given in dotted decimal. The canonical text has lower-case digits and shrinks the first longest
run of at least two zeros; an address that maps a four-octet one shows it in dotted decimal.
-/
import EnvSettings.Address.Ipv4

namespace EnvSettings.Address

open EnvSettings.Number

/-- A group of sixteen bits. -/
abbrev Group := Fin 65536

/-- An address of eight groups. -/
structure Ipv6 where
  groups : List Group
  length_groups : groups.length = 8
  deriving Repr, DecidableEq

namespace Ipv6

/-- The address of no host. -/
def unspecified : Ipv6 := ⟨List.replicate 8 0, rfl⟩

-- ================================================================= reading

/-- The two groups that an address of four octets fills. -/
def groupsOfIpv4 (ip : Ipv4) : List Group :=
  [⟨ip.a.val * 256 + ip.b.val, by omega⟩, ⟨ip.c.val * 256 + ip.d.val, by omega⟩]

/-- Reads a group: one to four hexadecimal digits. -/
def readGroup (cs : List Char) : Option (Group × List Char) :=
  if 4 < (cs.takeWhile (isDigitOf 16)).length then none else readNumber 16 65536 cs

/-- Reads the colon between two groups; there is none before the first. -/
def readSeparator (first : Bool) (cs : List Char) : Option (List Char) :=
  if first then some cs else readChar ':' cs

/-- What a run of groups holds, whether it ends in dotted decimal, and what follows it. -/
structure GroupRun where
  groups : List Group
  dotted : Bool
  rest : List Char

/-- Reads as many groups as there are, up to `room`. Dotted decimal takes the room of two. -/
def readGroups : (room : Nat) → (first : Bool) → List Char → GroupRun
  | 0, _, cs => ⟨[], false, cs⟩
  | room + 1, first, cs =>
    let dotted? := if room = 0 then none else (readSeparator first cs).bind Ipv4.read
    match dotted? with
    | some (ip, rest) => ⟨groupsOfIpv4 ip, true, rest⟩
    | none =>
      match (readSeparator first cs).bind readGroup with
      | some (group, rest) =>
        let run := readGroups room false rest
        ⟨group :: run.groups, run.dotted, run.rest⟩
      | none => ⟨[], false, cs⟩

/-- The address with these groups at its front and at its back, and zeros between. -/
def ofEnds (front back : List Group) : Option Ipv6 :=
  let groups := front ++ List.replicate (8 - front.length - back.length) 0 ++ back
  if h : groups.length = 8 then some ⟨groups, h⟩ else none

/-- Reads an address at the front of a text. -/
def read (cs : List Char) : Option (Ipv6 × List Char) :=
  let front := readGroups 8 true cs
  if front.groups.length = 8 then
    (ofEnds front.groups []).map (·, front.rest)
  else if front.dotted then none
  else
    match front.rest with
    | ':' :: ':' :: rest =>
      let back := readGroups (7 - front.groups.length) true rest
      (ofEnds front.groups back.groups).map (·, back.rest)
    | _ => none

-- ================================================================= writing

/-- The address of four octets that this one maps, if it does. -/
def mapped? (ip : Ipv6) : Option Ipv4 :=
  match ip.groups with
  | [z0, z1, z2, z3, z4, mark, high, low] =>
    if [z0, z1, z2, z3, z4].all (· = 0) ∧ mark.val = 0xffff then
      some ⟨⟨high.val / 256, by omega⟩, ⟨high.val % 256, by omega⟩,
        ⟨low.val / 256, by omega⟩, ⟨low.val % 256, by omega⟩⟩
    else none
  | _ => none

/-- How many groups from `start` on are zero. -/
def zeroRun (groups : List Group) (start : Nat) : Nat :=
  ((groups.drop start).takeWhile (· = 0)).length

/-- Start and length of the first longest run of zeros. -/
def longestZeroRun (groups : List Group) : Nat × Nat :=
  (List.range groups.length).foldl
    (fun best start =>
      let length := zeroRun groups start
      if best.2 < length then (start, length) else best)
    (0, 0)

/-- Groups in hexadecimal, between colons. -/
def joinGroups (groups : List Group) : String :=
  ":".intercalate (groups.map fun g => String.ofList (Nat.toDigits 16 g.val))

/-- Writes an address: groups in hexadecimal, the longest run of zeros left out. -/
def text (ip : Ipv6) : String :=
  match ip.mapped? with
  | some mapped => "::ffff:" ++ mapped.text
  | none =>
    let (start, length) := longestZeroRun ip.groups
    if 1 < length then
      joinGroups (ip.groups.take start) ++ "::" ++ joinGroups (ip.groups.drop (start + length))
    else joinGroups ip.groups

end Ipv6

end EnvSettings.Address
