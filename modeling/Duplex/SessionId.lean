import Duplex.Json.Record

/-!
Session identifiers: any text, compared by its bytes. The identifiers made from sixteen bytes have
the usual form of thirty-two digits in five groups.
-/

namespace Duplex

structure SessionId where
  text : String
  deriving Repr, DecidableEq

namespace SessionId

def compare (a b : SessionId) : Ordering :=
  if a.text < b.text then .lt else if a.text = b.text then .eq else .gt

def toJson (id : SessionId) : String := String.ofList (Json.writeText id.text)

def ofJson (text : String) : Except Json.Defect SessionId :=
  (Json.readAll (Json.readString "a string") text).map SessionId.mk

def grouped (digits : List Char) : String :=
  "-".intercalate ([(0, 8), (8, 4), (12, 4), (16, 4), (20, 12)].map fun g =>
    String.ofList ((digits.drop g.1).take g.2))

def ofBytes (b : Octets) : SessionId := ⟨grouped b.hex.toList⟩

def random (b : Octets) : SessionId :=
  ofBytes (b.mapIdx fun i x =>
    if i = 6 then x % 16 + 0x40 else if i = 8 then x % 64 + 0x80 else x)

def label (id : SessionId) : String := "SessionId(" ++ Text.quoted id.text ++ ")"

def shape (id : SessionId) : String :=
  id.text.map fun c => if (Octets.hexValue? c).isSome then 'x' else c

def version (id : SessionId) : String := String.ofList ((id.text.toList.drop 14).take 1)

def hasVariant (id : SessionId) : Bool :=
  ((id.text.toList.drop 19).take 1).all fun c => ['8', '9', 'a', 'b'].contains c

end SessionId
end Duplex
