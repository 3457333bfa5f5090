import Junction.Message.Query
import Junction.Proofs.Data.Multimap
import Junction.Proofs.Text.Pieces
import Junction.Proofs.Text.Utf8

/-!
Queries as text. What is written for pairs is read as the same pairs, whatever characters they hold
(`Url.decodeForm_encodeForm`), so that a query is read back from its text (`Query.readBack_encode`).
-/

namespace Junction

namespace Url
open Text

/-! ## Bytes of a part -/

/-- A byte of a part as it is read: a plus sign stands for a space. -/
def spaced (byte : UInt8) : UInt8 := if byte = 0x2B then 0x20 else byte

theorem percentDecoded_cons {byte : UInt8} (plain : byte ≠ 0x25) (rest : List UInt8) :
    percentDecoded (byte :: rest) = byte :: percentDecoded rest := by
  rw [percentDecoded.eq_def]
  split
  · contradiction
  · rename_i same
    exact absurd (List.cons.inj same).1 plain
  · rename_i same
    obtain ⟨rfl, rfl⟩ := List.cons.inj same
    rfl

theorem percentDecoded_escape {high low byte : UInt8}
    (digits : byteOfHex? (Char.ofNat high.toNat) (Char.ofNat low.toNat) = some byte) (rest : List UInt8) :
    percentDecoded (0x25 :: high :: low :: rest) = byte :: percentDecoded rest := by
  simp only [percentDecoded, digits]

/-- What holds of the bytes with any two hexadecimal digits holds of all. -/
theorem forall_byte {holds : UInt8 → Prop} (digits : ∀ high < 16, ∀ low < 16, holds (UInt8.ofNat (16 * high + low)))
    (byte : UInt8) : holds byte := by
  have small : byte.toNat < 256 := byte.toNat_lt
  have here := digits (byte.toNat / 16) (by omega) (byte.toNat % 16) (by omega)
  rwa [Nat.div_add_mod, UInt8.ofNat_toNat] at here

/-- What is written for a byte holds no separator. -/
theorem separate_encodedByte (byte : UInt8) : ∀ c ∈ encodedByte byte, c.toNat < 128 ∧ c ≠ '&' ∧ c ≠ '=' := by
  -- Evaluated over the written characters as a list: `∀ c ∈ _` itself may be decided over every character there is.
  have every : ∀ byte, (encodedByte byte).all (fun c => decide (c.toNat < 128) && c != '&' && c != '=') = true := by
    refine forall_byte ?_
    decide +kernel
  intro c member
  have here := List.all_eq_true.mp (every byte) c member
  simpa [and_assoc] using here

theorem spaced_plain : ∀ byte, isPlain byte = true → spaced (asciiByte (Char.ofNat byte.toNat)) = byte ∧ byte ≠ 0x25 := by
  refine forall_byte ?_
  decide +kernel

theorem byteOfHex?_hexDigits (byte : UInt8) : ∃ high low, (hexDigits 2 byte.toNat).map Char.toUpper = [high, low] ∧
    byteOfHex? (Char.ofNat (spaced (asciiByte high)).toNat) (Char.ofNat (spaced (asciiByte low)).toNat) = some byte := by
  have digits : ∀ high < 16, ∀ low < 16,
      byteOfHex? (Char.ofNat (spaced (asciiByte (hexDigit high).toUpper)).toNat)
        (Char.ofNat (spaced (asciiByte (hexDigit low).toUpper)).toNat) = some (UInt8.ofNat (16 * high + low)) := by
    decide +kernel
  have small : byte.toNat < 256 := byte.toNat_lt
  have here := digits (byte.toNat / 16 % 16) (by omega) (byte.toNat % 16) (by omega)
  have whole : 16 * (byte.toNat / 16 % 16) + byte.toNat % 16 = byte.toNat := by omega
  rw [whole, UInt8.ofNat_toNat] at here
  exact ⟨_, _, rfl, here⟩

/-- What is written for a byte is read as that byte. -/
theorem percentDecoded_encodedByte (byte : UInt8) (rest : List UInt8) :
    percentDecoded (((encodedByte byte).map asciiByte).map spaced ++ rest) = byte :: percentDecoded rest := by
  unfold encodedByte
  split
  · rename_i plain
    obtain ⟨same, notMark⟩ := spaced_plain byte plain
    simp only [List.map_cons, List.map_nil, List.singleton_append, same]
    exact percentDecoded_cons notMark rest
  · split
    · rename_i space
      rw [space]
      exact percentDecoded_cons (by decide) rest
    · obtain ⟨high, low, written, digits⟩ := byteOfHex?_hexDigits byte
      have mark : spaced (asciiByte '%') = 0x25 := by decide
      simp only [written, List.map_cons, List.map_nil, List.cons_append, List.nil_append, mark]
      exact percentDecoded_escape digits rest

theorem percentDecoded_encodedBytes (bytes : List UInt8) :
    percentDecoded (((bytes.flatMap encodedByte).map asciiByte).map spaced) = bytes := by
  induction bytes with
  | nil => rfl
  | cons byte bytes ih =>
    rw [List.flatMap_cons, List.map_append, List.map_append, percentDecoded_encodedByte, ih]

/-- What is written for a text is read as that text. -/
theorem decodedPart_encodedPart (text : String) : decodedPart ((encodedPart text).map asciiByte) = text := by
  have bytes : percentDecoded (((encodedPart text).map asciiByte).map spaced) = text.toUTF8.toList :=
    percentDecoded_encodedBytes text.toUTF8.toList
  calc decodedPart ((encodedPart text).map asciiByte)
      = ofBytes ⟨(percentDecoded (((encodedPart text).map asciiByte).map spaced)).toArray⟩ := rfl
    _ = text := by rw [bytes, ofBytes_toUTF8]

/-! ## Parts and pairs -/

theorem separate_encodedPart (text : String) : ∀ c ∈ encodedPart text, c.toNat < 128 ∧ c ≠ '&' ∧ c ≠ '=' := by
  intro c member
  obtain ⟨byte, _, written⟩ := List.mem_flatMap.mp member
  exact separate_encodedByte byte c written

/-- What is written for a pair is ASCII without the separator of pairs. -/
theorem separate_encodedPair (pair : String × String) : ∀ c ∈ encodedPair pair, c.toNat < 128 ∧ c ≠ '&' := by
  intro c member
  rcases List.mem_append.mp member with name | value
  · exact ⟨(separate_encodedPart pair.1 c name).1, (separate_encodedPart pair.1 c name).2.1⟩
  · rcases List.mem_cons.mp value with rfl | value
    · decide
    · exact ⟨(separate_encodedPart pair.2 c value).1, (separate_encodedPart pair.2 c value).2.1⟩

/-- ASCII text is cut at a separator as its bytes are. -/
theorem partsAt_ascii {separator : Char} {s : List Char} (ascii : ∀ c ∈ s, c.toNat < 128) (mark : separator.toNat < 128) :
    partsAt (asciiByte separator) (s.map asciiByte) = (pieces separator s).map (List.map asciiByte) := by
  induction s with
  | nil => rfl
  | cons c s ih =>
    obtain ⟨here, later⟩ := List.forall_mem_cons.mp ascii
    obtain ⟨first, more, cut⟩ := List.exists_cons_of_ne_nil (pieces_ne_nil separator s)
    have rest := ih later
    by_cases same : c = separator
    · simp [partsAt, pieces, same, rest]
    · have other : asciiByte c ≠ asciiByte separator := mt (asciiByte_inj here mark).mp same
      rw [cut] at rest
      simp [partsAt, other, rest, pieces_cons_of_ne same cut]

/-- What is written for a pair is read as that pair: the first equals sign is the one between its parts. -/
theorem pairOf_encodedPair (pair : String × String) : pairOf ((encodedPair pair).map asciiByte) = pair := by
  have whole : (encodedPair pair).map asciiByte =
      (encodedPart pair.1).map asciiByte ++ 0x3D :: (encodedPart pair.2).map asciiByte := List.map_append ..
  have inside : ∀ byte ∈ (encodedPart pair.1).map asciiByte, (byte != 0x3D) = true := by
    intro byte member
    obtain ⟨c, written, rfl⟩ := List.mem_map.mp member
    obtain ⟨ascii, _, apart⟩ := separate_encodedPart pair.1 c written
    exact bne_iff_ne.mpr (mt (asciiByte_inj ascii (by decide : '='.toNat < 128)).mp apart)
  rw [pairOf, whole, List.takeWhile_append_of_pos inside, List.takeWhile_cons_of_neg (by decide), List.append_nil,
    List.dropWhile_append_of_pos inside, List.dropWhile_cons_of_neg (by decide), List.drop_one, List.tail_cons,
    decodedPart_encodedPart, decodedPart_encodedPart]

/-- What is written for pairs is read as these pairs, in their order. -/
theorem decodeForm_encodeForm (pairs : List (String × String)) : decodeForm (encodeForm pairs) = pairs := by
  have ascii : ∀ c ∈ joined '&' (pairs.map encodedPair), c.toNat < 128 := by
    intro c member
    rcases eq_or_mem_of_mem_joined member with rfl | ⟨text, listed, inside⟩
    · decide
    · obtain ⟨pair, _, rfl⟩ := List.mem_map.mp listed
      exact (separate_encodedPair pair c inside).1
  have parts : partsAt 0x26 ((joined '&' (pairs.map encodedPair)).map asciiByte) =
      (pieces '&' (joined '&' (pairs.map encodedPair))).map (List.map asciiByte) := partsAt_ascii ascii (by decide : '&'.toNat < 128)
  rw [decodeForm, encodeForm, toList_toUTF8 ascii, parts]
  cases pairs with
  | nil => rfl
  | cons first more =>
    have whole : ∀ pair, pieces '&' (encodedPair pair) = [encodedPair pair] := fun pair =>
      pieces_of_not_mem fun member => (separate_encodedPair pair '&' member).2 rfl
    have cut : pieces '&' (joined '&' ((first :: more).map encodedPair)) = (first :: more).map encodedPair := by
      rw [pieces_joined (by simp), List.flatMap_map]
      simp only [whole]
      exact List.map_eq_flatMap.symm
    have filled : ∀ part ∈ ((first :: more).map encodedPair).map (List.map asciiByte), (!part.isEmpty) = true := by
      intro part member
      obtain ⟨_, listed, rfl⟩ := List.mem_map.mp member
      obtain ⟨pair, _, rfl⟩ := List.mem_map.mp listed
      simp [encodedPair]
    rw [cut, List.filter_eq_self.mpr filled, List.map_map, List.map_map]
    have same : (pairOf ∘ List.map asciiByte) ∘ encodedPair = id := funext pairOf_encodedPair
    rw [same, List.map_id]

end Url

/-! ## Queries -/

namespace Query

theorem ofText_encode (query : Query) : ofText query.encode = query := by
  rw [ofText, encode, Url.decodeForm_encodeForm, Multimap.ofPairs_pairs]

/-- A query is read back from its text, whatever its names and values hold, and its text lists every value of every name in
their order. What a text stands for is written in one way: reading and writing it once more changes nothing. -/
theorem readBack_encode (query : Query) (text : String) :
    ofText query.encode = query ∧ Url.decodeForm query.encode = query.values.pairs ∧
      (ofText (ofText text).encode).encode = (ofText text).encode :=
  ⟨ofText_encode query, Url.decodeForm_encodeForm query.values.pairs, congrArg encode (ofText_encode (ofText text))⟩

example : (ofText "tag=a&&tag=b+%2B&name=John%20Doe").encode = "name=John+Doe&tag=a&tag=b+%2B" := by decide +kernel

end Query
end Junction
