import Junction.Text.Cut

/-!
Bytes read as UTF-8. A byte sequence that is no UTF-8 is still readable: each longest run of bytes that
starts a character and does not finish it counts as one broken unit.
-/

namespace Junction.Text

/-- A continuation byte: `10xxxxxx`. -/
def isContinuation (byte : UInt8) : Bool := byte &&& 0xC0 == 0x80

/-- The least and greatest second byte allowed after a leading byte, with the number of continuation bytes
in the whole character; none when no character starts with the byte. -/
def secondByte? (lead : UInt8) : Option (UInt8 × UInt8 × Nat) :=
  if 0xC2 ≤ lead ∧ lead ≤ 0xDF then some (0x80, 0xBF, 1)
  else if lead = 0xE0 then some (0xA0, 0xBF, 2)
  else if 0xE1 ≤ lead ∧ lead ≤ 0xEC then some (0x80, 0xBF, 2)
  else if lead = 0xED then some (0x80, 0x9F, 2)
  else if 0xEE ≤ lead ∧ lead ≤ 0xEF then some (0x80, 0xBF, 2)
  else if lead = 0xF0 then some (0x90, 0xBF, 3)
  else if 0xF1 ≤ lead ∧ lead ≤ 0xF3 then some (0x80, 0xBF, 3)
  else if lead = 0xF4 then some (0x80, 0x8F, 3)
  else none

/-- The payload of a leading byte with the given number of continuation bytes. -/
def leadPayload (lead : UInt8) : Nat → Nat
  | 1 => (lead &&& 0x1F).toNat
  | 2 => (lead &&& 0x0F).toNat
  | _ => (lead &&& 0x07).toNat

/-- The first unit of a byte sequence and the number of further bytes that belong to it. -/
def firstUnit (lead : UInt8) (rest : List UInt8) : Option Char × Nat :=
  if lead < 0x80 then (some (Char.ofNat lead.toNat), 0)
  else match secondByte? lead with
    | none => (none, 0)
    | some (low, high, count) =>
      match rest with
      | second :: later =>
        if low ≤ second ∧ second ≤ high then
          let tail := (later.take (count - 1)).takeWhile isContinuation
          if tail.length = count - 1 then
            let code := (second :: tail).foldl (fun value byte => 64 * value + (byte &&& 0x3F).toNat)
              (leadPayload lead count)
            (some (Char.ofNat code), count)
          else (none, 1 + tail.length)
        else (none, 0)
      | [] => (none, 0)

/-- All units of a byte sequence: characters, and `none` for each broken unit. -/
def units : List UInt8 → List (Option Char)
  | [] => []
  | lead :: rest =>
    let (unit, extra) := firstUnit lead rest
    unit :: units (rest.drop extra)
termination_by bytes => bytes.length
decreasing_by simp only [List.length_drop, List.length_cons]; omega

/-- The character that stands for a broken unit. -/
def replacement : Char := Char.ofNat 0xFFFD

/-- The text of a byte sequence; a broken unit reads as U+FFFD. -/
def ofBytes (bytes : ByteArray) : String :=
  match String.fromUTF8? bytes with
  | some text => text
  | none => String.ofList ((units bytes.toList).map (·.getD replacement))

/-- The value of two hexadecimal digits. -/
def byteOfHex? (high low : Char) : Option UInt8 :=
  match hexValue? high, hexValue? low with
  | some a, some b => some (UInt8.ofNat (16 * a + b))
  | _, _ => none

/-- The bytes written as pairs of hexadecimal digits. -/
def bytesOfHex? : List Char → Option (List UInt8)
  | [] => some []
  | high :: low :: rest =>
    match byteOfHex? high low, bytesOfHex? rest with
    | some byte, some more => some (byte :: more)
    | _, _ => none
  | [_] => none

/-- Each byte as two hexadecimal digits in lower case. -/
def hexOfBytes (bytes : List UInt8) : String :=
  String.ofList (bytes.flatMap fun byte => hexDigits 2 byte.toNat)

end Junction.Text
