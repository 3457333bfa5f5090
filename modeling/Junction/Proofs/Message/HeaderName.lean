import Junction.Message.Header
import Junction.Proofs.Text.Case
import Junction.Proofs.Text.Trim

/-!
The spelling of header names. Spelling a name once more can change it, as a letter with several characters in
upper case shows; a third time cannot (`headerName_settles`). An ASCII name is spelled for good at once, and those that are
spelled alike are the same but for case and space around them (`headerName_eq_iff`).
-/

namespace Junction
open Text

/-! ## Spelling -/

/-- The characters at the start and after dashes are in upper case. -/
def HeadsUpper : (upperNext : Bool) → List Char → Prop
  | _, [] => True
  | upperNext, c :: rest => (upperNext = true → upper c = [c]) ∧ HeadsUpper (c == '-') rest

/-- Every character is as it is spelled. -/
def IsTitled : (upperNext : Bool) → List Char → Prop
  | _, [] => True
  | upperNext, c :: rest => (if upperNext then upper c = [c] else lower c = [c]) ∧ IsTitled (c == '-') rest

theorem titled_eq_self {upperNext : Bool} {s : List Char} (spelled : IsTitled upperNext s) :
    titled upperNext s = s := by
  induction s generalizing upperNext with
  | nil => rfl
  | cons c rest ih =>
    obtain ⟨here, later⟩ := spelled
    have same : (if upperNext then upper c else lower c) = [c] := by
      cases upperNext with
      | false => simpa using here
      | true => simpa using here
    simp [titled, same, ih later]

theorem upper_dash : upper '-' = ['-'] := by decide

theorem lower_dash : lower '-' = ['-'] := by decide

theorem dash_not_mem {c : Char} (other : c ≠ '-') : '-' ∉ upper c ∧ '-' ∉ lower c := by
  constructor
  · intro member
    exact other (upper_maps.eq_of_separator member (.inl rfl)).symm
  · intro member
    exact other (lower_maps.eq_of_separator member (.inl rfl)).symm

/-- Characters without a dash are followed by what no dash precedes. -/
theorem headsUpper_append {front back : List Char} (noDash : '-' ∉ front) (later : HeadsUpper false back) :
    HeadsUpper false (front ++ back) := by
  induction front with
  | nil => exact later
  | cons c rest ih =>
    obtain ⟨notHere, notLater⟩ : '-' ≠ c ∧ '-' ∉ rest := by simpa using noDash
    have other : (c == '-') = false := beq_eq_false_iff_ne.mpr notHere.symm
    refine ⟨nofun, ?_⟩
    rw [other]
    exact ih notLater

/-- A name that is spelled once has its starts in upper case. -/
theorem headsUpper_titled (upperNext : Bool) (s : List Char) : HeadsUpper upperNext (titled upperNext s) := by
  induction s generalizing upperNext with
  | nil => trivial
  | cons c rest ih =>
    by_cases dash : c = '-'
    · subst dash
      have same : (if upperNext then upper '-' else lower '-') = ['-'] := by
        rw [upper_dash, lower_dash, ite_self]
      rw [titled, same]
      exact ⟨fun _ => upper_dash, ih true⟩
    · have next : (c == '-') = false := beq_eq_false_iff_ne.mpr dash
      obtain ⟨noUpper, noLower⟩ := dash_not_mem dash
      rw [titled, next]
      cases upperNext with
      | false => exact headsUpper_append noLower (ih false)
      | true =>
        obtain ⟨first, more, form, fixed⟩ := upper_head c
        rw [form] at noUpper
        obtain ⟨notFirst, notMore⟩ : '-' ≠ first ∧ '-' ∉ more := by simpa using noUpper
        have other : (first == '-') = false := beq_eq_false_iff_ne.mpr notFirst.symm
        simp only [if_true, form, List.cons_append]
        refine ⟨fun _ => fixed, ?_⟩
        rw [other]
        exact headsUpper_append notMore (ih false)

theorem isTitled_append {front back : List Char} (noDash : '-' ∉ front) (small : ∀ c ∈ front, lower c = [c])
    (later : IsTitled false back) : IsTitled false (front ++ back) := by
  induction front with
  | nil => exact later
  | cons c rest ih =>
    obtain ⟨notHere, notLater⟩ : '-' ≠ c ∧ '-' ∉ rest := by simpa using noDash
    have other : (c == '-') = false := beq_eq_false_iff_ne.mpr notHere.symm
    refine ⟨small c List.mem_cons_self, ?_⟩
    rw [other]
    exact ih notLater fun d member => small d (List.mem_cons_of_mem _ member)

/-- With its starts in upper case, spelling a name brings all other characters into lower case for good. -/
theorem isTitled_titled {upperNext : Bool} {s : List Char} (heads : HeadsUpper upperNext s) :
    IsTitled upperNext (titled upperNext s) := by
  induction s generalizing upperNext with
  | nil => trivial
  | cons c rest ih =>
    obtain ⟨here, later⟩ := heads
    cases upperNext with
    | true =>
      have fixed := here rfl
      simp only [titled, if_true, fixed, List.cons_append, List.nil_append]
      exact ⟨fixed, ih later⟩
    | false =>
      by_cases dash : c = '-'
      · subst dash
        simp only [titled, Bool.false_eq_true, if_false, lower_dash, List.cons_append, List.nil_append]
        exact ⟨lower_dash, ih later⟩
      · have next : (c == '-') = false := beq_eq_false_iff_ne.mpr dash
        rw [next] at later
        rw [titled, next]
        exact isTitled_append (dash_not_mem dash).2 (fun d member => lower_of_mem_lower member) (ih later)

/-! ## Space around a name -/

theorem titled_append (upperNext : Bool) (front back : List Char) :
    ∃ next, titled upperNext (front ++ back) = titled upperNext front ++ titled next back := by
  induction front generalizing upperNext with
  | nil => exact ⟨upperNext, rfl⟩
  | cons c rest ih =>
    obtain ⟨next, same⟩ := ih (c == '-')
    refine ⟨next, ?_⟩
    simp only [List.cons_append, titled, same, List.append_assoc]

theorem notWhite_of_spelled {c d : Char} {upperNext : Bool}
    (member : d ∈ if upperNext then upper c else lower c) (notWhite : isWhite c = false) : isWhite d = false := by
  cases white : isWhite d with
  | false => rfl
  | true =>
    have same : d = c := by
      cases upperNext with
      | false => exact lower_maps.eq_of_separator member (.inr white)
      | true => exact upper_maps.eq_of_separator member (.inr white)
    rw [same, notWhite] at white
    cases white

theorem spelled_ne_nil (upperNext : Bool) (c : Char) : (if upperNext then upper c else lower c) ≠ [] := by
  cases upperNext with
  | false => exact lower_maps.ne_nil c
  | true => exact upper_maps.ne_nil c

/-- Spelling puts no white space around a name. -/
theorem tight_titled {upperNext : Bool} {s : List Char} (tight : Tight s) : Tight (titled upperNext s) := by
  refine ⟨?_, ?_⟩
  · cases s with
    | nil => nofun
    | cons c rest =>
      intro d member
      obtain ⟨first, more, form⟩ := List.exists_cons_of_ne_nil (spelled_ne_nil upperNext c)
      have same : first = d := by simpa [titled, form] using member
      have here : d ∈ if upperNext then upper c else lower c := by
        rw [form, same]
        exact List.mem_cons_self
      exact notWhite_of_spelled here (tight.first c rfl)
  · rcases List.eq_nil_or_concat s with rfl | ⟨front, c, rfl⟩
    · nofun
    · intro d member
      obtain ⟨next, split⟩ := titled_append upperNext front [c]
      have last : d ∈ (if next then upper c else lower c).getLast? := by
        rw [List.concat_eq_append, split] at member
        simp only [titled, List.append_nil, List.getLast?_append] at member
        rwa [List.getLast?_eq_some_getLast (spelled_ne_nil next c), Option.some_or,
          ← List.getLast?_eq_some_getLast] at member
      exact notWhite_of_spelled (List.mem_of_getLast? last) (tight.last c (by simp))

/-- The third spelling of a name is the second. -/
theorem headerName_settles (name : String) :
    headerName (headerName (headerName name)) = headerName (headerName name) := by
  have tight := tight_trimmed name.toList
  have once : trimmed (titled true (trimmed name.toList)) = titled true (trimmed name.toList) :=
    trimmed_eq_self (tight_titled tight)
  have twice : trimmed (titled true (titled true (trimmed name.toList))) = titled true (titled true (trimmed name.toList)) :=
    trimmed_eq_self (tight_titled (tight_titled tight))
  have settled := isTitled_titled (headsUpper_titled true (trimmed name.toList))
  simp only [headerName, String.toList_ofList, once, twice, titled_eq_self settled]

example : headerName "ß-x" = "SS-X" ∧ headerName "SS-X" = "Ss-X" := by decide +kernel

/-! ## ASCII names -/

/-- A name of ASCII characters. -/
def IsAscii (name : String) : Prop := ∀ c ∈ name.toList, c.toNat < 128

instance : DecidablePred IsAscii := fun name => List.decidableBAll _ name.toList

/-- Names that are the same but for the case of letters and the space around them. -/
def SameName (one other : String) : Prop := sameIgnoringCase (trim one) (trim other) = true

theorem spelled_ascii {c : Char} (ascii : c.toNat < 128) (upperNext : Bool) :
    (if upperNext then upper c else lower c) = [if upperNext then c.toUpper else c.toLower] := by
  cases upperNext with
  | true => exact if_pos ascii
  | false => exact if_pos ascii

theorem titled_cons_ascii {c : Char} (ascii : c.toNat < 128) (upperNext : Bool) (s : List Char) :
    titled upperNext (c :: s) = (if upperNext then c.toUpper else c.toLower) :: titled (c == '-') s := by
  rw [titled, spelled_ascii ascii]
  rfl

theorem map_toLower_titled {s : List Char} (ascii : ∀ c ∈ s, c.toNat < 128) (upperNext : Bool) :
    (titled upperNext s).map Char.toLower = s.map Char.toLower := by
  induction s generalizing upperNext with
  | nil => rfl
  | cons c s ih =>
    obtain ⟨here, later⟩ := List.forall_mem_cons.mp ascii
    have low : (if upperNext then c.toUpper else c.toLower).toLower = c.toLower := by
      cases upperNext with
      | true => exact toLower_toUpper c
      | false => exact toLower_toLower c
    rw [titled_cons_ascii here, List.map_cons, List.map_cons, low, ih later]

theorem ascii_titled {s : List Char} (ascii : ∀ c ∈ s, c.toNat < 128) (upperNext : Bool) :
    ∀ c ∈ titled upperNext s, c.toNat < 128 := by
  have codes : ∀ code < 128, (Char.ofNat code).toUpper.toNat < 128 ∧ (Char.ofNat code).toLower.toNat < 128 := by decide
  induction s generalizing upperNext with
  | nil => nofun
  | cons c s ih =>
    obtain ⟨here, later⟩ := List.forall_mem_cons.mp ascii
    have both := codes c.toNat here
    rw [Char.ofNat_toNat] at both
    rw [titled_cons_ascii here, List.forall_mem_cons]
    refine ⟨?_, ih later _⟩
    cases upperNext with
    | true => exact both.1
    | false => exact both.2

theorem dash_of_toLower {c : Char} (ascii : c.toNat < 128) : c.toLower = '-' ↔ c = '-' := by
  constructor
  · intro dash
    have member : '-' ∈ lower c := by
      rw [lower, if_pos ascii, dash]
      exact List.mem_singleton_self _
    exact (lower_maps.eq_of_separator member (.inl rfl)).symm
  · rintro rfl
    decide

/-- Characters that are the same in lower case are spelled alike. -/
theorem titled_congr {s t : List Char} (ascii : ∀ c ∈ s, c.toNat < 128) (ascii' : ∀ c ∈ t, c.toNat < 128)
    (same : s.map Char.toLower = t.map Char.toLower) (upperNext : Bool) : titled upperNext s = titled upperNext t := by
  induction s generalizing t upperNext with
  | nil => rw [List.map_eq_nil_iff.mp same.symm]
  | cons c s ih =>
    cases t with
    | nil => cases same
    | cons d t =>
      obtain ⟨low, same⟩ := List.cons.inj same
      obtain ⟨here, later⟩ := List.forall_mem_cons.mp ascii
      obtain ⟨here', later'⟩ := List.forall_mem_cons.mp ascii'
      have high : c.toUpper = d.toUpper := by rw [← toUpper_toLower c, low, toUpper_toLower]
      have dash : (c == '-') = (d == '-') := by
        rw [Bool.eq_iff_iff, beq_iff_eq, beq_iff_eq, ← dash_of_toLower here, ← dash_of_toLower here', low]
      rw [titled_cons_ascii here, titled_cons_ascii here', low, high, dash, ih later later' same]

theorem ascii_trimmed {name : String} (ascii : IsAscii name) : ∀ c ∈ trimmed name.toList, c.toNat < 128 := by
  obtain ⟨front, back, _, _, whole⟩ := exists_eq_trimmed name.toList
  intro c member
  apply ascii c
  rw [whole]
  exact List.mem_append_left back (List.mem_append_right front member)

theorem sameName_iff {one other : String} :
    SameName one other ↔ (trimmed one.toList).map Char.toLower = (trimmed other.toList).map Char.toLower := by
  rw [SameName, sameIgnoringCase, beq_iff_eq, lowerAscii, lowerAscii, ← String.toList_inj, String.toList_map,
    String.toList_map, trim, trim, String.toList_ofList, String.toList_ofList]

/-- ASCII names are spelled alike if and only if they are the same but for case and space around them. -/
theorem headerName_eq_iff {one other : String} (ascii : IsAscii one) (ascii' : IsAscii other) :
    headerName one = headerName other ↔ SameName one other := by
  rw [sameName_iff, headerName, headerName, String.ofList_inj]
  constructor
  · intro same
    rw [← map_toLower_titled (ascii_trimmed ascii) true, same, map_toLower_titled (ascii_trimmed ascii')]
  · intro same
    exact titled_congr (ascii_trimmed ascii) (ascii_trimmed ascii') same true

theorem isAscii_headerName {name : String} (ascii : IsAscii name) : IsAscii (headerName name) := by
  rw [IsAscii, headerName, String.toList_ofList]
  exact ascii_titled (ascii_trimmed ascii) true

/-- An ASCII name is spelled for good at once. -/
theorem headerName_headerName {name : String} (ascii : IsAscii name) : headerName (headerName name) = headerName name := by
  rw [headerName_eq_iff (isAscii_headerName ascii) ascii, sameName_iff, headerName, String.toList_ofList,
    trimmed_eq_self (tight_titled (tight_trimmed name.toList)), map_toLower_titled (ascii_trimmed ascii)]

end Junction
