import Duplex.Uri.Basic

/-!
Reading an address. Blanks around it and line breaks inside it are dropped first. The rest falls
into scheme, place, path, query and fragment from left to right, each part taking as much as its
delimiters leave it.
-/

namespace Duplex.Uri

def isEdge (c : Char) : Bool := c.toNat ≤ 0x20

def isBreak (c : Char) : Bool := c = '\t' || c = '\n' || c = '\r'

def significant (s : String) : List Char :=
  (((s.toList.dropWhile isEdge).reverse.dropWhile isEdge).reverse).filter fun c => !isBreak c

def isSchemeChar (c : Char) : Bool :=
  c.isAlphanum || c = '+' || c = '-' || c = '.'

def scheme? (cs : List Char) : Option (String × List Char) :=
  match cs with
  | [] => none
  | c :: _ =>
    if c.isAlpha then
      match cs.dropWhile isSchemeChar with
      | ':' :: rest =>
        some (String.ofList ((cs.takeWhile isSchemeChar).map Char.toLower), rest)
      | _ => none
    else none

def endsPlace (special : Bool) (c : Char) : Bool :=
  c = '/' || c = '?' || c = '#' || (special && c = '\\')

def readCredentials (special : Bool) (cs : List Char) :
    Except Defect (String × Option String × Bool × List Char) :=
  let place := cs.takeWhile fun c => !endsPlace special c
  let after := (place.reverse.takeWhile (· ≠ '@')).reverse
  if after.length = place.length then .ok ("", none, false, cs)
  else
    let before := place.take (place.length - after.length - 1)
    let rest := cs.drop (before.length + 1)
    if before.isEmpty then
      if after.isEmpty && !rest.isEmpty then .error .emptyHost
      else .ok ("", none, false, rest)
    else
      let user := before.takeWhile (· ≠ ':')
      let secret := before.drop (user.length + 1)
      let password := if secret.isEmpty then none else some (encodeAll userReserved secret)
      .ok (encodeAll userReserved user, password, !user.isEmpty || password.isSome, rest)

def hostSpan (special : Bool) : Bool → List Char → List Char × List Char
  | _, [] => ([], [])
  | inside, c :: rest =>
    if endsPlace special c || (c = ':' && !inside) then ([], c :: rest)
    else
      let inside := if c = '[' then true else if c = ']' then false else inside
      let r := hostSpan special inside rest
      (c :: r.1, r.2)

def readPort (scheme : String) (cs : List Char) : Except Defect (Option Nat × List Char) :=
  let digits := cs.takeWhile Char.isDigit
  let rest := cs.dropWhile Char.isDigit
  let value := digits.foldl (fun n c => n * 10 + (c.toNat - 48)) 0
  if 65535 < value then .error .invalidPort
  else
    match rest with
    | c :: _ =>
      if c = '/' || c = '\\' || c = '?' || c = '#' then
        .ok (if digits.isEmpty || defaultPort scheme = some value then none else some value, rest)
      else .error .invalidPort
    | [] => .ok (if digits.isEmpty || defaultPort scheme = some value then none else some value, [])

def isDot (s : List Char) : Bool :=
  let s := s.map Char.toLower
  s = ".".toList || s = "%2e".toList

def isDoubleDot (s : List Char) : Bool :=
  let s := s.map Char.toLower
  s = "..".toList || s = ".%2e".toList || s = "%2e.".toList || s = "%2e%2e".toList

def namesDrive : List Char → Bool
  | [a, b] => a.isAlpha && (b = ':' || b = '|')
  | a :: b :: c :: _ => a.isAlpha && (b = ':' || b = '|') && c = '\\'
  | _ => false

def drive? : List Char → Option String
  | [a, b] => if namesDrive [a, b] then some (String.ofList [a, ':']) else none
  | _ => none

def withoutLast : List String → List String
  | [] => []
  | last :: before => if namesDrive last.toList then last :: before else before

def resolve (file : Bool) : List String → List (List Char) → List String
  | done, [] => done.reverse
  | done, s :: rest =>
    if isDoubleDot s then
      let done := withoutLast done
      resolve file (if rest.isEmpty then "" :: done else done) rest
    else if isDot s then resolve file (if rest.isEmpty then "" :: done else done) rest
    else
      let drive := if file && done.isEmpty then drive? s else none
      resolve file (drive.getD (encodeAll pathReserved s) :: done) rest

def isSlash (special : Bool) (c : Char) : Bool := c = '/' || (special && c = '\\')

def segmentsOf (special : Bool) (cs : List Char) : List (List Char) :=
  splitAt '/' (cs.map fun c => if isSlash special c then '/' else c)

def readPath (special : Bool) (cs : List Char) : List String × List Char :=
  let span := cs.takeWhile fun c => c ≠ '?' && c ≠ '#'
  let rest := cs.dropWhile fun c => c ≠ '?' && c ≠ '#'
  match span with
  | [] => (if special then [""] else [], rest)
  | c :: more =>
    if isSlash special c then (resolve false [] (segmentsOf special more), rest)
    else (resolve false [] (segmentsOf special span), rest)

def readRest (u : Uri) (cs : List Char) : Uri :=
  let reserved := if isSpecial u.scheme then specialQueryReserved else queryReserved
  let (query, cs) := match cs with
    | '?' :: rest =>
      (some (encodeAll reserved (rest.takeWhile (· ≠ '#'))), rest.dropWhile (· ≠ '#'))
    | rest => (none, rest)
  let fragment := match cs with
    | '#' :: rest => some (encodeAll fragmentReserved rest)
    | _ => none
  { u with query, fragment }

def readPlace (scheme : String) (cs : List Char) : Except Defect Uri := do
  let special := isSpecial scheme
  let (username, password, known, cs) ← readCredentials special cs
  let (span, cs) := hostSpan special false cs
  if span.isEmpty && (special || known || cs.head? = some ':') then .error .emptyHost
  else
    let host ← if special then Host.ofSpecial span else Host.ofOpaque span
    let (port, cs) ← match cs with
      | ':' :: rest => readPort scheme rest
      | rest => .ok (none, rest)
    let (path, cs) := readPath special cs
    let u : Uri := { scheme, authority := true, username, password, host := some host, port,
                     path := .segments path }
    .ok (readRest u cs)

def readFileHost (cs : List Char) : Except Defect (Option Host × List Char) :=
  let span := cs.takeWhile fun c => !endsPlace true c
  let rest := cs.drop span.length
  if (drive? span).isSome then .ok (none, cs)
  else if span.isEmpty then .ok (none, rest)
  else
    match Host.ofSpecial span with
    | .error e => .error e
    | .ok (.name "localhost") => .ok (none, rest)
    | .ok host => .ok (some host, if rest.head?.any (isSlash true) then rest.drop 1 else rest)

/-- The address of a file after its scheme. A path that begins with a drive is a path on this host,
and empty segments before it go. -/
def readFile (cs : List Char) : Except Defect Uri := do
  let (host, cs) ← match cs with
    | a :: b :: rest =>
      if isSlash true a then
        if isSlash true b then readFileHost rest else .ok (none, b :: rest)
      else .ok (none, cs)
    | [a] => .ok (none, if isSlash true a then [] else [a])
    | [] => .ok (none, [])
  let span := cs.takeWhile fun c => c ≠ '?' && c ≠ '#'
  let path := resolve true [] (segmentsOf true span)
  let host := if path.head?.any fun s => (drive? s.toList).isSome then none else host
  let path := match path.dropWhile (· = "") with
    | [] => [""]
    | l => l
  .ok (readRest
    { scheme := "file", authority := true, host := some (host.getD (.name "")),
      path := .segments path }
    (cs.drop span.length))

def readWhole (scheme : String) (cs : List Char) : Uri :=
  let span := cs.takeWhile fun c => c ≠ '?' && c ≠ '#'
  readRest { scheme, path := .whole (encodeAll opaqueReserved span) }
    (cs.dropWhile fun c => c ≠ '?' && c ≠ '#')

def read (s : String) : Except Defect Uri :=
  match scheme? (significant s) with
  | none => .error .relative
  | some ("file", rest) => readFile rest
  | some (scheme, rest) =>
    if isSpecial scheme then readPlace scheme (rest.dropWhile (isSlash true))
    else
      match rest with
      | '/' :: '/' :: rest => readPlace scheme rest
      | '/' :: more =>
        let (path, cs) := readPath false ('/' :: more)
        .ok (readRest { scheme, path := .segments path } cs)
      | rest => .ok (readWhole scheme rest)

end Duplex.Uri
