import Duplex.Uri.Name
import Duplex.Uri.Percent
import Duplex.Text.Quoted

/-!
Hosts: names, which end up in ASCII, and the two kinds of numeric address with their one canonical
spelling each.
-/

namespace Duplex.Uri

inductive Defect
  | relative
  | emptyHost
  | invalidName
  | invalidPort
  | invalidIpv4
  | invalidIpv6
  | invalidCharacter
  deriving Repr, DecidableEq

def Defect.message : Defect → String
  | .relative => "relative URL without a base"
  | .emptyHost => "empty host"
  | .invalidName => "invalid international domain name"
  | .invalidPort => "invalid port number"
  | .invalidIpv4 => "invalid IPv4 address"
  | .invalidIpv6 => "invalid IPv6 address"
  | .invalidCharacter => "invalid domain character"

inductive Host
  | name (s : String)
  | ipv4 (address : Nat)
  | ipv6 (groups : List Nat)
  deriving Repr, DecidableEq

def splitAt (sep : Char) (cs : List Char) : List (List Char) := cs.splitOn sep

def numberIn (base : Nat) (cs : List Char) : Option Nat :=
  cs.foldl (fun n c => do
    let n ← n
    let d ← Octets.hexValue? c
    if d < base then some (n * base + d) else none) (some 0)

def addressPart (cs : List Char) : Option Nat :=
  match cs with
  | [] => none
  | '0' :: x :: rest => if x = 'x' || x = 'X' then numberIn 16 rest else numberIn 8 (x :: rest)
  | cs => numberIn 10 cs

def endsInNumber (name : List Char) : Bool :=
  let labels := (splitAt '.' name).reverse
  let labels := match labels with
    | [] :: more => if more.isEmpty then [] else more
    | l => l
  match labels with
  | [] => false
  | last :: _ => (!last.isEmpty && last.all Char.isDigit) || (addressPart last).isSome

def address (parts : List Nat) : Option Nat :=
  match parts.reverse with
  | [] => none
  | last :: front =>
    if front.any (255 < ·) || Nat.pow 256 (5 - parts.length) ≤ last then none
    else
      some (front.reverse.foldl (fun n p => n * 256 + p) 0 * Nat.pow 256 (5 - parts.length) + last)

def ipv4? (name : List Char) : Except Defect Nat :=
  let labels := splitAt '.' name
  let labels := if labels.getLast? = some [] && 1 < labels.length then labels.dropLast else labels
  if 4 < labels.length then .error .invalidIpv4
  else
    match labels.mapM addressPart with
    | none => .error .invalidIpv4
    | some parts =>
      match address parts with
      | some a => .ok a
      | none => .error .invalidIpv4

def group? (cs : List Char) : Option Nat :=
  if cs.isEmpty || 4 < cs.length then none else numberIn 16 cs

def byte? (cs : List Char) : Option Nat :=
  if cs.isEmpty || (1 < cs.length && cs.head? = some '0') then none
  else do
    let n ← numberIn 10 cs
    if n ≤ 255 then some n else none

def groups? (last : Bool) (cs : List Char) : Option (List Nat) :=
  if cs.isEmpty then some []
  else
    let parts := splitAt ':' cs
    match parts.reverse with
    | [] => some []
    | final :: front =>
      if last && final.contains '.' then do
        let front ← front.reverse.mapM group?
        match ← (splitAt '.' final).mapM byte? with
        | [a, b, c, d] => some (front ++ [a * 256 + b, c * 256 + d])
        | _ => none
      else parts.mapM group?

def atGap : List Char → List Char → Option (List Char × List Char)
  | _, [] => none
  | done, ':' :: ':' :: rest => some (done.reverse, rest)
  | done, c :: rest => atGap (c :: done) rest

def ipv6? (cs : List Char) : Except Defect (List Nat) :=
  let read : Option (List Nat) :=
    match atGap [] cs with
    | none => do
      let g ← groups? true cs
      if g.length = 8 then some g else none
    | some (before, after) => do
      let b ← groups? false before
      let a ← groups? true after
      if b.length + a.length < 8 then
        some (b ++ List.replicate (8 - b.length - a.length) 0 ++ a)
      else none
  match read with
  | some g => .ok g
  | none => .error .invalidIpv6

def longestZeros (groups : List Nat) : Option (Nat × Nat) :=
  let runs := (List.range groups.length).map fun i =>
    (i, ((groups.drop i).takeWhile (· = 0)).length)
  runs.foldl (fun best r =>
    match best with
    | none => if 1 < r.2 then some r else none
    | some b => if b.2 < r.2 then some r else some b) none

def groupText (groups : List Nat) : String := ":".intercalate (groups.map Text.hexNat)

def ipv6Text (groups : List Nat) : String :=
  match longestZeros groups with
  | none => groupText groups
  | some (start, length) =>
    groupText (groups.take start) ++ "::" ++ groupText (groups.drop (start + length))

def ipv4Text (a : Nat) : String :=
  ".".intercalate
    ([a / 16777216, a / 65536 % 256, a / 256 % 256, a % 256].map fun b => toString b)

def ipv6Label : List Nat → String
  | [0, 0, 0, 0, 0, 0xFFFF, high, low] => "::ffff:" ++ ipv4Text (high * 65536 + low)
  | groups => ipv6Text groups

namespace Host

def text : Host → String
  | .name s => s
  | .ipv4 a => ipv4Text a
  | .ipv6 g => "[" ++ ipv6Text g ++ "]"

def label : Host → String
  | .name s => "Domain(" ++ Text.quoted s ++ ")"
  | .ipv4 a => "Ipv4(" ++ ipv4Text a ++ ")"
  | .ipv6 g => "Ipv6(" ++ ipv6Label g ++ ")"

def bracketed? (cs : List Char) : Option (Except Defect Host) :=
  match cs with
  | '[' :: rest =>
    if rest.getLast? = some ']' then some ((ipv6? rest.dropLast).map .ipv6)
    else some (.error .invalidIpv6)
  | _ => none

def ofSpecial (cs : List Char) : Except Defect Host :=
  match bracketed? cs with
  | some r => r
  | none =>
    match Name.toAscii? (decodeBytes cs) with
    | none => .error .invalidName
    | some [] => .error .emptyHost
    | some ascii =>
      if endsInNumber ascii then .ipv4 <$> ipv4? ascii else .ok (.name (String.ofList ascii))

def ofOpaque (cs : List Char) : Except Defect Host :=
  match bracketed? cs with
  | some r => r
  | none =>
    if cs.any Name.hostForbidden.contains then .error .invalidCharacter
    else .ok (.name (encodeAll opaqueReserved cs))

end Host
end Duplex.Uri
