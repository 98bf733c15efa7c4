import Duplex.Decimal.Shortest

/-!
How a double is written inside a message: the fewest digits that read back, positional while the
leading digit stands between the fifth place after the point and the sixteenth before it, otherwise
with a signed exponent.
-/

namespace Duplex.Decimal

def zeros (n : Nat) : String := String.ofList (List.replicate n '0')

def Shortest.leading (s : Shortest) : Int := s.exponent + (toString s.digits).length - 1

def Shortest.text (s : Shortest) : String :=
  let d := toString s.digits
  let lead := s.leading
  if -5 ≤ lead ∧ lead ≤ 15 then
    if 0 ≤ s.exponent then d ++ zeros s.exponent.toNat ++ ".0"
    else if 0 ≤ lead then
      String.ofList (d.toList.take (lead.toNat + 1)) ++ "." ++
        String.ofList (d.toList.drop (lead.toNat + 1))
    else "0." ++ zeros ((-lead).toNat - 1) ++ d
  else
    let rest := d.toList.drop 1
    let point := if rest.isEmpty then "" else "." ++ String.ofList rest
    String.ofList (d.toList.take 1) ++ point ++ "e" ++ (if lead < 0 then "-" else "+") ++
      toString lead.natAbs

def floatText (x : Float) : String :=
  let bits := x.toBits.toNat
  let sign := if Nat.pow 2 63 ≤ bits then "-" else ""
  let size := bits % Nat.pow 2 63
  if size = 0 then sign ++ "0.0" else sign ++ (Binary.ofBits size).shortest.text

end Duplex.Decimal
