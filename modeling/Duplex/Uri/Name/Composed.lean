import Duplex.Uri.Name.Mark

/-!
The composed form of a text, in which what can be written as one character is, and marks stand in
the order of their places. A text is taken apart, its marks are put in order, and each character is
then joined to the one that it attaches to.
-/

namespace Duplex.Uri.Name

def compositions : Images := .ofText [
  "E0= 61.300 61.301 61.302 61.303 61.308 61.30A - 63.327 65.300 65.301 65.302 65.308 69.300",
  "69.301 69.302 69.308 - 6E.303 6F.300 6F.301 6F.302 6F.303 6F.308 - - 75.300 75.301 75.302",
  "75.308 79.301 - 79.308 - 61.304 - 61.306 - 61.328 - 63.301 - 63.302 - 63.307 - 63.30C -",
  "64.30C 113= 65.304 - 65.306 - 65.307 - 65.328 - 65.30C - 67.302 - 67.306 - 67.307 - 67.327 -",
  "68.302 129= 69.303 - 69.304 - 69.306 - 69.328 135= 6A.302 - 6B.327 - - 6C.301 - 6C.327 -",
  "6C.30C 144= 6E.301 - 6E.327 - 6E.30C 14D= 6F.304 - 6F.306 - 6F.30B 155= 72.301 - 72.327 -",
  "72.30C - 73.301 - 73.302 - 73.327 - 73.30C - 74.327 - 74.30C 169= 75.303 - 75.304 - 75.306 -",
  "75.30A - 75.30B - 75.328 - 77.302 - 79.302 - - 7A.301 - 7A.307 - 7A.30C 1A1= 6F.31B 1B0=",
  "75.31B 1CE= 61.30C - 69.30C - 6F.30C - 75.30C - FC.304 - FC.301 - FC.30C - FC.300 - - E4.304",
  "- 227.304 - E6.304 1E7= 67.30C - 6B.30C - 6F.328 - 1EB.304 - 292.30C 6A.30C 1F5= 67.301 1F9=",
  "6E.300 - E5.301 - E6.301 - F8.301 - 61.30F - 61.311 - 65.30F - 65.311 - 69.30F - 69.311 -",
  "6F.30F - 6F.311 - 72.30F - 72.311 - 75.30F - 75.311 - 73.326 - 74.326 21F= 68.30C 227=",
  "61.307 - 65.327 - F6.304 - F5.304 - 6F.307 - 22F.304 - 79.304 390= 3CA.301 3AC= 3B1.301",
  "3B5.301 3B7.301 3B9.301 3CB.301 3CA= 3B9.308 3C5.308 3BF.301 3C5.301 3C9.301 439= 438.306",
  "450= 435.300 435.308 - 433.301 457= 456.308 45C= 43A.301 438.300 443.306 477= 475.30F 4C2=",
  "436.306 4D1= 430.306 - 430.308 4D7= 435.306 4DB= 4D9.308 - 436.308 - 437.308 4E3= 438.304 -",
  "438.308 - 43E.308 4EB= 4E9.308 - 44D.308 - 443.304 - 443.308 - 443.30B - 447.308 4F9=",
  "44B.308 622= 627.653 627.654 648.654 627.655 64A.654 6C0= 6D5.654 - 6C1.654 6D3= 6D2.654",
  "929= 928.93C 931= 930.93C - - 933.93C 9CB= 9C7.9BE 9C7.9D7 B48= B47.B56 - - B47.B3E B47.B57",
  "B94= B92.BD7 BCA= BC6.BBE BC7.BBE BC6.BD7 C48= C46.C56 CC0= CBF.CD5 CC7= CC6.CD5 CC6.CD6 -",
  "CC6.CC2 CCA.CD5 D4A= D46.D3E D47.D3E D46.D57 DDA= DD9.DCA - DD9.DCF DDC.DCA DD9.DDF 1026=",
  "1025.102E 1B06= 1B05.1B35 - 1B07.1B35 - 1B09.1B35 - 1B0B.1B35 - 1B0D.1B35 1B12= 1B11.1B35",
  "1B3B= 1B3A.1B35 - 1B3C.1B35 - - 1B3E.1B35 1B3F.1B35 - 1B42.1B35 1E01= 61.325 - 62.307 -",
  "62.323 - 62.331 - E7.301 - 64.307 - 64.323 - 64.331 - 64.327 - 64.32D - 113.300 - 113.301 -",
  "65.32D - 65.330 - 229.306 - 66.307 - 67.304 - 68.307 - 68.323 - 68.308 - 68.327 - 68.32E -",
  "69.330 - EF.301 - 6B.301 - 6B.323 - 6B.331 - 6C.323 - 1E37.304 - 6C.331 - 6C.32D - 6D.301 -",
  "6D.307 - 6D.323 - 6E.307 - 6E.323 - 6E.331 - 6E.32D - F5.301 - F5.308 - 14D.300 - 14D.301 -",
  "70.301 - 70.307 - 72.307 - 72.323 - 1E5B.304 - 72.331 - 73.307 - 73.323 - 15B.307 - 161.307",
  "- 1E63.307 - 74.307 - 74.323 - 74.331 - 74.32D - 75.324 - 75.330 - 75.32D - 169.301 -",
  "16B.308 - 76.303 - 76.323 - 77.300 - 77.301 - 77.308 - 77.307 - 77.323 - 78.307 - 78.308 -",
  "79.307 - 7A.302 - 7A.323 - 7A.331 68.331 74.308 77.30A 79.30A 1EA1= 61.323 - 61.309 - E2.301",
  "- E2.300 - E2.309 - E2.303 - 1EA1.302 - 103.301 - 103.300 - 103.309 - 103.303 - 1EA1.306 -",
  "65.323 - 65.309 - 65.303 - EA.301 - EA.300 - EA.309 - EA.303 - 1EB9.302 - 69.309 - 69.323 -",
  "6F.323 - 6F.309 - F4.301 - F4.300 - F4.309 - F4.303 - 1ECD.302 - 1A1.301 - 1A1.300 - 1A1.309",
  "- 1A1.303 - 1A1.323 - 75.323 - 75.309 - 1B0.301 - 1B0.300 - 1B0.309 - 1B0.303 - 1B0.323 -",
  "79.300 - 79.323 - 79.309 - 79.303 1F00= 3B1.313 3B1.314 1F00.300 1F01.300 1F00.301 1F01.301",
  "1F00.342 1F01.342 1F10= 3B5.313 3B5.314 1F10.300 1F11.300 1F10.301 1F11.301 1F20= 3B7.313",
  "3B7.314 1F20.300 1F21.300 1F20.301 1F21.301 1F20.342 1F21.342 1F30= 3B9.313 3B9.314 1F30.300",
  "1F31.300 1F30.301 1F31.301 1F30.342 1F31.342 1F40= 3BF.313 3BF.314 1F40.300 1F41.300",
  "1F40.301 1F41.301 1F50= 3C5.313 3C5.314 1F50.300 1F51.300 1F50.301 1F51.301 1F50.342",
  "1F51.342 1F60= 3C9.313 3C9.314 1F60.300 1F61.300 1F60.301 1F61.301 1F60.342 1F61.342 1F70=",
  "3B1.300 - 3B5.300 - 3B7.300 - 3B9.300 - 3BF.300 - 3C5.300 - 3C9.300 1FB0= 3B1.306 3B1.304",
  "1FB6= 3B1.342 1FC6= 3B7.342 1FD0= 3B9.306 3B9.304 3CA.300 1FD6= 3B9.342 3CA.342 1FE0=",
  "3C5.306 3C5.304 3CB.300 - 3C1.313 3C1.314 3C5.342 3CB.342 1FF6= 3C9.342 219A= 2190.338",
  "2192.338 21AE= 2194.338 21CD= 21D0.338 21D4.338 21D2.338 2204= 2203.338 2209= 2208.338 - -",
  "220B.338 2224= 2223.338 - 2225.338 2241= 223C.338 - - 2243.338 - - 2245.338 - 2248.338 2260=",
  "3D.338 - 2261.338 226D= 224D.338 3C.338 3E.338 2264.338 2265.338 - - 2272.338 2273.338 - -",
  "2276.338 2277.338 2280= 227A.338 227B.338 - - 2282.338 2283.338 - - 2286.338 2287.338 22AC=",
  "22A2.338 22A8.338 22A9.338 22AB.338 22E0= 227C.338 227D.338 2291.338 2292.338 22EA= 22B2.338",
  "22B3.338 22B4.338 22B5.338 304C= 304B.3099 - 304D.3099 - 304F.3099 - 3051.3099 - 3053.3099 -",
  "3055.3099 - 3057.3099 - 3059.3099 - 305B.3099 - 305D.3099 - 305F.3099 - 3061.3099 - -",
  "3064.3099 - 3066.3099 - 3068.3099 3070= 306F.3099 306F.309A - 3072.3099 3072.309A -",
  "3075.3099 3075.309A - 3078.3099 3078.309A - 307B.3099 307B.309A 3094= 3046.3099 309E=",
  "309D.3099 30AC= 30AB.3099 - 30AD.3099 - 30AF.3099 - 30B1.3099 - 30B3.3099 - 30B5.3099 -",
  "30B7.3099 - 30B9.3099 - 30BB.3099 - 30BD.3099 - 30BF.3099 - 30C1.3099 - - 30C4.3099 -",
  "30C6.3099 - 30C8.3099 30D0= 30CF.3099 30CF.309A - 30D2.3099 30D2.309A - 30D5.3099 30D5.309A",
  "- 30D8.3099 30D8.309A - 30DB.3099 30DB.309A 30F4= 30A6.3099 - - 30EF.3099 30F0.3099",
  "30F1.3099 30F2.3099 30FE= 30FD.3099 105C9= 105D2.307 105E4= 105DA.307 1109A= 11099.110BA -",
  "1109B.110BA 110AB= 110A5.110BA 1112E= 11131.11127 11132.11127 1134B= 11347.1133E 11347.11357",
  "11383= 11382.113C9 - 11384.113BB 1138E= 1138B.113C2 - - 11390.113C9 113C5= 113C2.113C2 -",
  "113C2.113B8 113C2.113C9 114BB= 114B9.114BA 114B9.114B0 - 114B9.114BD 115BA= 115B8.115AF",
  "115B9.115AF 11938= 11935.11930 16121= 1611E.1611E 1611E.16129 1611E.1611F 16129.1611F",
  "1611E.16120 16121.1611F 16122.1611F 16121.16120 16D68= 16D67.16D67 16D63.16D67 16D69.16D67"]

def firstSyllable : Nat := 0xAC00

def isSyllable (n : Nat) : Bool := firstSyllable ≤ n && n < firstSyllable + 19 * 21 * 28

def parts? (c : Char) : Option (Char × Char) :=
  let n := c.toNat - firstSyllable
  if isSyllable c.toNat then
    if n % 28 = 0 then
      some (Char.ofNat (0x1100 + n / 28 / 21), Char.ofNat (0x1161 + n / 28 % 21))
    else some (Char.ofNat (c.toNat - n % 28), Char.ofNat (0x11A7 + n % 28))
  else
    match compositions.of? c with
    | some [a, b] => some (a, b)
    | _ => none

def joined? (a b : Char) : Option Char :=
  let (m, n) := (a.toNat, b.toNat)
  if 0x1100 ≤ m && m < 0x1100 + 19 && 0x1161 ≤ n && n < 0x1161 + 21 then
    some (Char.ofNat (firstSyllable + ((m - 0x1100) * 21 + (n - 0x1161)) * 28))
  else if isSyllable m && (m - firstSyllable) % 28 = 0 && 0x11A7 < n && n < 0x11A7 + 28 then
    some (Char.ofNat (m + (n - 0x11A7)))
  else compositions.source? [a, b]

def apart : Nat → Char → List Char
  | 0, c => [c]
  | times + 1, c =>
    match parts? c with
    | none => [c]
    | some (a, b) => apart times a ++ [b]

def depth : Nat := 4

def insertMark (c : Char) : List Char → List Char
  | [] => [c]
  | d :: rest =>
    if 0 < place d && place d < place c then d :: insertMark c rest else c :: d :: rest

def ordered (cs : List Char) : List Char := cs.foldr insertMark []

structure Composing where
  done : List Char := []
  base : Option Char := none
  marks : List Char := []

/-- Takes one character in. A mark does not reach past another one of its own or a higher place. -/
def Composing.push (s : Composing) (c : Char) : Composing :=
  match s.base with
  | none => if place c = 0 then { s with base := some c } else { s with done := c :: s.done }
  | some base =>
    let reaches := match s.marks with
      | [] => true
      | m :: _ => place m < place c
    match if reaches then joined? base c else none with
    | some j => { s with base := some j }
    | none =>
      if place c = 0 then { done := s.marks ++ base :: s.done, base := some c }
      else { s with marks := c :: s.marks }

def Composing.finish (s : Composing) : List Char :=
  (s.marks ++ s.base.toList ++ s.done).reverse

def composed (cs : List Char) : List Char :=
  if cs.all fun c => c.toNat < 128 then cs
  else ((ordered (cs.flatMap (apart depth))).foldl Composing.push {}).finish

end Duplex.Uri.Name
