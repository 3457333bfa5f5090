import Junction.Text.Utf8

/-!
Pairs of names and values as text of the form `a=1&b=2`, with a plus sign for a space and a percent sign
before the two digits of any other byte.
-/

namespace Junction.Url

/-- Bytes with their percent signs resolved; one without two digits after it stands for itself. -/
def percentDecoded : List UInt8 → List UInt8
  | [] => []
  | 0x25 :: high :: low :: rest =>
    match Text.byteOfHex? (Char.ofNat high.toNat) (Char.ofNat low.toNat) with
    | some byte => byte :: percentDecoded rest
    | none => 0x25 :: percentDecoded (high :: low :: rest)
  | byte :: rest => byte :: percentDecoded rest

/-- The text of an encoded part. -/
def decodedPart (part : List UInt8) : String :=
  Text.ofBytes ⟨(percentDecoded (part.map fun byte => if byte = 0x2B then 0x20 else byte)).toArray⟩

/-- The parts of bytes between separators. -/
def partsAt (separator : UInt8) : List UInt8 → List (List UInt8)
  | [] => [[]]
  | byte :: rest =>
    if byte = separator then [] :: partsAt separator rest
    else match partsAt separator rest with
      | [] => [[byte]]
      | part :: more => (byte :: part) :: more

/-- The pair of one part: name and value at the first equals sign. -/
def pairOf (part : List UInt8) : String × String :=
  (decodedPart (part.takeWhile (· != 0x3D)), decodedPart ((part.dropWhile (· != 0x3D)).drop 1))

/-- The pairs of a text; empty parts are left out. -/
def decodeForm (text : String) : List (String × String) :=
  ((partsAt 0x26 text.toUTF8.toList).filter (fun part => !part.isEmpty)).map pairOf

/-- A byte that stands for itself in an encoded part. -/
def isPlain (byte : UInt8) : Bool :=
  (0x30 ≤ byte && byte ≤ 0x39) || (0x41 ≤ byte && byte ≤ 0x5A) || (0x61 ≤ byte && byte ≤ 0x7A) ||
    byte == 0x2A || byte == 0x2D || byte == 0x2E || byte == 0x5F

/-- The encoded form of one byte. -/
def encodedByte (byte : UInt8) : List Char :=
  if isPlain byte then [Char.ofNat byte.toNat]
  else if byte = 0x20 then ['+']
  else '%' :: (Text.hexDigits 2 byte.toNat).map Char.toUpper

/-- The encoded form of a text. -/
def encodedPart (text : String) : List Char := text.toUTF8.toList.flatMap encodedByte

/-- The encoded form of a pair. -/
def encodedPair (pair : String × String) : List Char := encodedPart pair.1 ++ '=' :: encodedPart pair.2

/-- The encoded form of pairs. -/
def encodeForm (pairs : List (String × String)) : String :=
  String.ofList (Text.joined '&' (pairs.map encodedPair))

end Junction.Url
