import Duplex.Json.Skip

/-!
Records of known fields. A record is written as an object, whose fields come in any order and whose
unknown fields are passed over, or as a list of its fields in the order of their declaration.
-/

namespace Duplex.Json

structure Field (σ : Type) where
  name : String
  fill : σ → Reader σ
  filled : σ → Bool
  defaulted : Bool := false

variable {σ : Type}

def readPositions (what : String) (fields : List (Field σ)) (index : Nat) (s : σ)
    (cs : List Char) : Except Breach (σ × List Char) :=
  match fields with
  | [] => .ok (s, cs)
  | f :: rest => do
    let (more, cs) ← nextElement (index = 0) cs
    if more then
      let (s, cs) ← f.fill s cs
      readPositions what rest (index + 1) s cs
    else if f.defaulted then readPositions what rest (index + 1) s cs
    else .error (.behind (.wrongLength index what) cs)

def readField (fields : List (Field σ)) (s : σ) (key : String) (cs : List Char) :
    Except Breach (σ × List Char) :=
  match fields.find? fun f => f.name = key with
  | none => do .ok (s, ← skipValue (← readColon cs))
  | some f =>
    if f.filled s then .error (.behind (.duplicateField f.name) cs)
    else do f.fill s (← readColon cs)

def readRecord {α : Type} (name : String) (fields : List (Field σ)) (start : σ)
    (finish : σ → Except Defect α) : Reader α := fun cs =>
  let finished (s : σ) (rest : List Char) : Except Breach α :=
    (finish s).mapError fun d => .behind d rest
  match skipBlanks cs with
  | [] => .error (.next (.unfinished .value) [])
  | '[' :: r => do
    let what := "struct " ++ name ++ " with " ++ toString fields.length ++ " elements"
    let (s, rest) ← readPositions what fields 0 start r
    let v ← finished s rest
    .ok (v, ← endList rest)
  | '\x7b' :: r => do
    let (s, rest) ← readEntries (readField fields) true start r (r.length + 1)
    let v ← finished s rest
    .ok (v, ← endObject rest)
  | r => .error (mismatch ("struct " ++ name) r)

def readTextMap {μ : Type} (empty : μ) (put : μ → String → String → μ) : Reader μ := fun cs =>
  match skipBlanks cs with
  | [] => .error (.next (.unfinished .value) [])
  | '\x7b' :: r => do
    let (m, rest) ← readEntries (fun m key cs => do
      let (v, rest) ← readString "a string" (← readColon cs)
      .ok (put m key v, rest)) true empty r (r.length + 1)
    .ok (m, ← endObject rest)
  | r => .error (mismatch "a map" r)

def readVariant {α : Type} (known : List (String × α)) : Reader α := fun cs =>
  let choose (r : List Char) : Except Breach (α × List Char) := do
    let (name, rest) ← readText r
    match known.find? fun k => k.1 = name with
    | some k => .ok (k.2, rest)
    | none => .error (.behind (.unknownVariant name (known.map Prod.fst)) rest)
  match skipBlanks cs with
  | [] => .error (.next (.unfinished .value) [])
  | '"' :: r => choose r
  | '\x7b' :: r => do
    let (named, rest) ← nextKey true r
    if !named then .error (.next .expectedValue rest)
    else
      let (v, rest) ← choose rest
      let ((), rest) ← readNull "unit" (← readColon rest)
      match skipBlanks rest with
      | [] => .error (.next (.unfinished .object) [])
      | '\x7d' :: r => .ok (v, r)
      | r => .error (.next .expectedValue r)
  | r => .error (.next .expectedValue r)

end Duplex.Json
