import Junction.Text.Letter

/-!
What case mappings lead to: the first character of an upper case form is in upper case, and all characters of a
lower case form are in lower case. No mapping leads to a dash or to white space. Both are read off the tables,
whose code points are compared as the bits of one number. Of the letters of ASCII alone, either case leads back to the
other.
-/

namespace Junction.Text

/-! ## Sets of code points -/

/-- Code points as the bits of one number. -/
def mask (codes : List Nat) : Nat := codes.foldr (fun code found => found ||| 1 <<< code) 0

theorem testBit_mask (codes : List Nat) (code : Nat) : (mask codes).testBit code = decide (code ∈ codes) := by
  induction codes with
  | nil => simp [mask]
  | cons first rest ih =>
    have here : (1 <<< first).testBit code = decide (code = first) := by
      rw [Nat.one_shiftLeft, Nat.testBit_two_pow]
      simp [eq_comm]
    change (mask rest ||| 1 <<< first).testBit code = _
    rw [Nat.testBit_or, ih, here]
    by_cases same : code = first
    · simp [same]
    · simp [same]

theorem not_mem_of_mask {left right : List Nat} (apart : mask left &&& mask right = 0) {code : Nat}
    (member : code ∈ left) : code ∉ right := by
  intro listed
  have bit : (mask left &&& mask right).testBit code = true := by
    rw [Nat.testBit_and, testBit_mask, testBit_mask]
    simp [member, listed]
  rw [apart, Nat.zero_testBit] at bit
  cases bit

/-! ## Tables -/

/-- The code points that a run maps. -/
def CaseRun.codes (run : CaseRun) : List Nat :=
  (List.range ((run.last - run.first) / run.step + 1)).map fun k => run.first + k * run.step

/-- The code points that a run maps to. -/
def CaseRun.images (run : CaseRun) : List Nat :=
  (List.range ((run.last - run.first) / run.step + 1)).map fun k => run.target + k * run.step

theorem CaseRun.mem_of_image? {run : CaseRun} {code image : Nat} (found : run.image? code = some image) :
    code ∈ run.codes ∧ image ∈ run.images := by
  unfold image? at found
  split at found
  · rename_i within
    obtain ⟨above, below, steps⟩ := within
    have whole : (code - run.first) / run.step * run.step = code - run.first :=
      Nat.div_mul_cancel (Nat.dvd_of_mod_eq_zero steps)
    have few : (code - run.first) / run.step < (run.last - run.first) / run.step + 1 := by
      have bound : (code - run.first) / run.step ≤ (run.last - run.first) / run.step :=
        Nat.div_le_div_right (by omega)
      omega
    have same : run.target + (code - run.first) = image := Option.some.inj found
    refine ⟨List.mem_map.mpr ⟨_, List.mem_range.mpr few, ?_⟩, List.mem_map.mpr ⟨_, List.mem_range.mpr few, ?_⟩⟩
    · rw [whole]
      omega
    · rw [whole]
      exact same
  · cases found

/-- The code points that a table maps. -/
def tableCodes (runs : Array CaseRun) (expansions : Array (Nat × List Nat)) : List Nat :=
  runs.toList.flatMap CaseRun.codes ++ expansions.toList.map (·.1)

/-- The forms that a table maps to. -/
def tableForms (runs : Array CaseRun) (expansions : Array (Nat × List Nat)) : List (List Nat) :=
  (runs.toList.flatMap CaseRun.images).map ([·]) ++ expansions.toList.map (·.2)

variable {runs : Array CaseRun} {expansions : Array (Nat × List Nat)} {c d : Char}

theorem mapped_of_not_mem (absent : c.toNat ∉ tableCodes runs expansions) : mapped runs expansions c = [c] := by
  have noExpansion : expansions.find? (fun entry => entry.1 == c.toNat) = none := by
    rw [Array.find?_eq_none]
    intro entry member same
    have code : entry.1 = c.toNat := by simpa using same
    apply absent
    rw [← code]
    exact List.mem_append_right _ (List.mem_map_of_mem (by simpa using member))
  have noRun : runs.findSome? (fun run => run.image? c.toNat) = none := by
    rw [Array.findSome?_eq_none_iff]
    intro run member
    cases found : run.image? c.toNat with
    | none => rfl
    | some image =>
      refine absurd ?_ absent
      exact List.mem_append_left _ (List.mem_flatMap.mpr ⟨run, by simpa using member, (CaseRun.mem_of_image? found).1⟩)
  simp only [mapped, noExpansion, noRun]

theorem mapped_form (runs : Array CaseRun) (expansions : Array (Nat × List Nat)) (c : Char) :
    mapped runs expansions c = [c] ∨
      ∃ form ∈ tableForms runs expansions, mapped runs expansions c = form.map Char.ofNat := by
  unfold mapped
  split
  · rename_i code codes found
    right
    have member := Array.mem_of_find?_eq_some found
    refine ⟨codes, List.mem_append_right _ ?_, rfl⟩
    exact List.mem_map.mpr ⟨_, by simpa using member, rfl⟩
  · split
    · rename_i image found
      right
      obtain ⟨run, member, here⟩ := Array.exists_of_findSome?_eq_some found
      refine ⟨[image], List.mem_append_left _ ?_, rfl⟩
      refine List.mem_map.mpr ⟨image, List.mem_flatMap.mpr ⟨run, by simpa using member, ?_⟩, rfl⟩
      exact (CaseRun.mem_of_image? here).2
    · exact .inl rfl

/-! ## Mappings -/

/-- The dash and white space. -/
def separatorCodes : List Nat :=
  45 :: 0x20 :: 0x85 :: 0xA0 :: 0x1680 :: 0x2028 :: 0x2029 :: 0x202F :: 0x205F :: 0x3000 ::
    (List.range' 9 5 ++ List.range' 0x2000 11)

/-- Characters that part a header name, or stand around it. -/
def IsSeparator (c : Char) : Prop := c = '-' ∨ isWhite c = true

theorem mem_separatorCodes (separator : IsSeparator c) : c.toNat ∈ separatorCodes := by
  rcases separator with rfl | white
  · decide
  · simp only [isWhite, Bool.or_eq_true, Bool.and_eq_true, decide_eq_true_eq, beq_iff_eq] at white
    simp only [separatorCodes, List.mem_cons, List.mem_append, List.mem_range'_1]
    omega

theorem toNat_ofNat_of_valid {code : Nat} (valid : code.isValidChar) : (Char.ofNat code).toNat = code := by
  rw [Char.ofNat, dif_pos valid]
  rfl

/-- A mapping of the characters of `codes`, each to one of `forms`; no form is empty or has a separator. -/
structure Maps (change : Char → List Char) (codes : List Nat) (forms : List (List Nat)) : Prop where
  fixed : ∀ c, c.toNat ∉ codes → change c = [c]
  form : ∀ c, change c = [c] ∨ ∃ form ∈ forms, change c = form.map Char.ofNat
  valid : ∀ form ∈ forms, form ≠ [] ∧ ∀ code ∈ form, code.isValidChar
  apart : mask forms.flatten &&& mask separatorCodes = 0

namespace Maps

variable {change : Char → List Char} {codes : List Nat} {forms : List (List Nat)}

theorem ne_nil (maps : Maps change codes forms) (c : Char) : change c ≠ [] := by
  rcases maps.form c with same | ⟨form, member, same⟩
  · simp [same]
  · simp [same, (maps.valid form member).1]

theorem eq_of_separator (maps : Maps change codes forms) (member : d ∈ change c) (separator : IsSeparator d) :
    d = c := by
  rcases maps.form c with same | ⟨form, listed, same⟩
  · simpa [same] using member
  · rw [same] at member
    obtain ⟨code, here, rfl⟩ := List.mem_map.mp member
    have code? := mem_separatorCodes separator
    rw [toNat_ofNat_of_valid ((maps.valid form listed).2 code here)] at code?
    exact absurd code? (not_mem_of_mask maps.apart (List.mem_flatten.mpr ⟨form, listed, here⟩))

/-- A character that a form has at a place stays as it is, if none of `places` is mapped again. -/
theorem fixed_of_form (maps : Maps change codes forms) {places : List Nat} (apart : mask places &&& mask codes = 0)
    {code : Nat} (here : code ∈ places) (valid : code.isValidChar) :
    change (Char.ofNat code) = [Char.ofNat code] := by
  apply maps.fixed
  rw [toNat_ofNat_of_valid valid]
  exact not_mem_of_mask apart here

end Maps

/-- A mapping that goes by ASCII below and by a table above. -/
theorem maps_of_table {ascii : Char → Char} {sources targets : List Nat}
    (below : ∀ code < 128, (code ∉ sources → ascii (Char.ofNat code) = Char.ofNat code) ∧
      (ascii (Char.ofNat code) = Char.ofNat code ∨ ∃ target ∈ targets, ascii (Char.ofNat code) = Char.ofNat target))
    (valid : ∀ form ∈ targets.map ([·]) ++ tableForms runs expansions, form ≠ [] ∧ ∀ code ∈ form, code.isValidChar)
    (apart : mask (targets.map ([·]) ++ tableForms runs expansions).flatten &&& mask separatorCodes = 0) :
    Maps (fun c => if c.toNat < 128 then [ascii c] else mapped runs expansions c)
      (sources ++ tableCodes runs expansions) (targets.map ([·]) ++ tableForms runs expansions) := by
  refine ⟨?_, ?_, valid, apart⟩
  · intro c absent
    by_cases small : c.toNat < 128
    · have same := (below c.toNat small).1 fun member => absent (List.mem_append_left _ member)
      rw [Char.ofNat_toNat] at same
      simp [small, same]
    · simp only [small, if_false]
      exact mapped_of_not_mem fun member => absent (List.mem_append_right _ member)
  · intro c
    by_cases small : c.toNat < 128
    · have cases := (below c.toNat small).2
      rw [Char.ofNat_toNat] at cases
      simp only [small, if_true]
      rcases cases with same | ⟨target, member, same⟩
      · exact .inl (by rw [same])
      · exact .inr ⟨[target], List.mem_append_left _ (List.mem_map_of_mem member), by simp [same]⟩
    · simp only [small, if_false]
      rcases mapped_form runs expansions c with same | ⟨form, member, same⟩
      · exact .inl same
      · exact .inr ⟨form, List.mem_append_right _ member, same⟩

/-! ## Upper and lower case -/

/-- All upper case forms of other characters. -/
def upperForms : List (List Nat) := (List.range' 65 26).map ([·]) ++ tableForms upperRuns upperExpansions

/-- All lower case forms of other characters. -/
def lowerForms : List (List Nat) := (List.range' 97 26).map ([·]) ++ tableForms lowerRuns lowerExpansions

theorem upper_maps : Maps upper (List.range' 97 26 ++ tableCodes upperRuns upperExpansions) upperForms :=
  maps_of_table (by decide +kernel) (by decide +kernel) (by decide +kernel)

theorem lower_maps : Maps lower (List.range' 65 26 ++ tableCodes lowerRuns lowerExpansions) lowerForms :=
  maps_of_table (by decide +kernel) (by decide +kernel) (by decide +kernel)

/-- An upper case form starts with a character in upper case. -/
theorem upper_head (c : Char) : ∃ first rest, upper c = first :: rest ∧ upper first = [first] := by
  have heads : mask (upperForms.filterMap List.head?) &&&
      mask (List.range' 97 26 ++ tableCodes upperRuns upperExpansions) = 0 := by decide +kernel
  rcases upper_maps.form c with same | ⟨form, member, same⟩
  · exact ⟨c, [], same, same⟩
  · obtain ⟨some?, valid⟩ := upper_maps.valid form member
    obtain ⟨first, rest, rfl⟩ := List.exists_cons_of_ne_nil some?
    refine ⟨Char.ofNat first, rest.map Char.ofNat, same, ?_⟩
    refine upper_maps.fixed_of_form heads ?_ (valid first List.mem_cons_self)
    exact List.mem_filterMap.mpr ⟨first :: rest, member, rfl⟩

/-- The characters of a lower case form are in lower case. -/
theorem lower_of_mem_lower (member : d ∈ lower c) : lower d = [d] := by
  have all : mask lowerForms.flatten &&& mask (List.range' 65 26 ++ tableCodes lowerRuns lowerExpansions) = 0 := by
    decide +kernel
  rcases lower_maps.form c with same | ⟨form, listed, same⟩
  · have here : d = c := by simpa [same] using member
    rw [here, same]
  · rw [same] at member
    obtain ⟨code, here, rfl⟩ := List.mem_map.mp member
    exact lower_maps.fixed_of_form all (List.mem_flatten.mpr ⟨form, listed, here⟩)
      ((lower_maps.valid form listed).2 code here)

/-! ## ASCII letters -/

theorem toLower_toUpper (c : Char) : c.toUpper.toLower = c.toLower := by
  have letters : ∀ place < 26, (Char.ofNat (97 + place)).toUpper.toLower = (Char.ofNat (97 + place)).toLower := by
    decide
  by_cases low : 'a'.val ≤ c.val ∧ c.val ≤ 'z'.val
  · have above : 97 ≤ c.toNat := UInt32.le_iff_toNat_le.mp low.1
    have below : c.toNat ≤ 122 := UInt32.le_iff_toNat_le.mp low.2
    have here := letters (c.toNat - 97) (by omega)
    rwa [Nat.add_sub_cancel' above, Char.ofNat_toNat] at here
  · have kept : c.toUpper = c := dif_neg low
    rw [kept]

theorem toUpper_toLower (c : Char) : c.toLower.toUpper = c.toUpper := by
  have letters : ∀ place < 26, (Char.ofNat (65 + place)).toLower.toUpper = (Char.ofNat (65 + place)).toUpper := by
    decide
  by_cases high : 'A'.val ≤ c.val ∧ c.val ≤ 'Z'.val
  · have above : 65 ≤ c.toNat := UInt32.le_iff_toNat_le.mp high.1
    have below : c.toNat ≤ 90 := UInt32.le_iff_toNat_le.mp high.2
    have here := letters (c.toNat - 65) (by omega)
    rwa [Nat.add_sub_cancel' above, Char.ofNat_toNat] at here
  · have kept : c.toLower = c := dif_neg high
    rw [kept]

theorem toLower_toLower (c : Char) : c.toLower.toLower = c.toLower := by
  rw [← toLower_toUpper c.toLower, toUpper_toLower, toLower_toUpper]

theorem upperAscii_lowerAscii (s : String) : upperAscii (lowerAscii s) = upperAscii s := by
  rw [upperAscii, lowerAscii, String.map_map]
  congr 1
  funext c
  exact toUpper_toLower c

theorem upperAscii_of_sameIgnoringCase {s other : String} (same : sameIgnoringCase s other = true) :
    upperAscii s = upperAscii other := by
  rw [← upperAscii_lowerAscii s, beq_iff_eq.mp same, upperAscii_lowerAscii]

theorem sameIgnoringCase_upperAscii (s other : String) :
    sameIgnoringCase (upperAscii s) other = sameIgnoringCase s other := by
  have lowered : lowerAscii (upperAscii s) = lowerAscii s := by
    rw [lowerAscii, upperAscii, String.map_map]
    congr 1
    funext c
    exact toLower_toUpper c
  rw [sameIgnoringCase, lowered]
  rfl

end Junction.Text
