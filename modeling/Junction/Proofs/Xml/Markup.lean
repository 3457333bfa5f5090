import Junction.Proofs.Xml.Tag

/-!
Markup as it is written, and how it reads (`read?_written`): the tags are the same, texts that meet are one text, and
white space around a text is lost. What repeats an attribute in a tag does not read at all.
-/

namespace Junction.Xml.Markup

/-- The characters of markup. -/
def written : Markup → List Char
  | .opening name attributes => '<' :: (tagText name attributes ++ ['>'])
  | .closed name attributes => '<' :: (tagText name attributes ++ ['/', '>'])
  | .closing name => '<' :: '/' :: (name.toList ++ ['>'])
  | .text value => escaped value.toList

/-- The attributes of a tag. -/
def attributes : Markup → List (String × String)
  | .opening _ attributes | .closed _ attributes => attributes
  | .closing _ | .text _ => []

/-- No attribute is there twice. -/
def IsDistinct (markup : Markup) : Prop := (markup.attributes.map (·.1)).Nodup

instance (markup : Markup) : Decidable markup.IsDistinct :=
  inferInstanceAs (Decidable (markup.attributes.map (·.1)).Nodup)

/-- Markup below open elements, the innermost first: it has names where there must be names, and closes no element but
the innermost. -/
def Fits : (inside : List String) → List Markup → Prop
  | _, [] => True
  | inside, .opening name attributes :: rest =>
    IsName name.toList ∧ (∀ pair ∈ attributes, IsName pair.1.toList) ∧ Fits (name :: inside) rest
  | inside, .closed name attributes :: rest =>
    IsName name.toList ∧ (∀ pair ∈ attributes, IsName pair.1.toList) ∧ Fits inside rest
  | [], .closing _ :: _ => False
  | innermost :: inside, .closing name :: rest => name = innermost ∧ IsName name.toList ∧ Fits inside rest
  | inside, .text _ :: rest => Fits inside rest

/-- A text as it reads between tags. -/
def shownText (s : List Char) : List Markup :=
  let shown := withoutEnd (s.dropWhile isSpace)
  if shown.isEmpty then [] else [.text (String.ofList shown)]

/-- Markup as it reads after a text that has begun. -/
def shown : (begun : List Char) → List Markup → List Markup
  | begun, [] => shownText begun
  | begun, .text value :: rest => shown (begun ++ value.toList) rest
  | begun, tag :: rest => shownText begun ++ tag :: shown [] rest

variable {name : String} {attributes : List (String × String)} {names : List (List Char)} {s rest : List Char}

/-! ## Single tags -/

theorem bracketed?_tag {c : Char} (plain : IsPlain c) (mark : Option Char) (names : List (List Char)) (s : List Char) :
    bracketed? mark names (c :: s) =
      (tagEnd? .outside (c :: s)).bind fun (inner, rest) =>
        if inner.getLast? = some '/' then
          (tag? mark inner.dropLast).map fun (name, attributes) => ([.closed name attributes], names, rest)
        else
          (tag? mark inner).map fun (name, attributes) => ([.opening name attributes], nameOf inner :: names, rest) := by
  unfold bracketed?
  split
  · rename_i same; cases same; exact absurd rfl plain.bang
  · rename_i same; cases same; exact absurd rfl plain.bang
  · rename_i same; cases same; exact absurd rfl plain.bang
  · rename_i same; cases same; exact absurd rfl plain.query
  · rename_i same; cases same; exact absurd rfl plain.query
  · rename_i same; cases same; exact absurd rfl plain.slash
  · rename_i same; cases same
  · rfl

theorem getLast?_attributes (attributes : List (String × String)) :
    ∀ c ∈ (attributes.flatMap writtenAttribute).getLast?, c = '\x22' := by
  induction attributes with
  | nil => intro c member; cases member
  | cons pair attributes ih =>
    intro c member
    rw [List.flatMap_cons, List.getLast?_append] at member
    cases later : (attributes.flatMap writtenAttribute).getLast? with
    | some last =>
      rw [later] at ih member
      exact ih c member
    | none =>
      have quote : writtenAttribute pair = ' ' :: (pair.1.toList ++ '=' :: '\x22' :: escaped pair.2.toList) ++ ['\x22'] := by
        simp [writtenAttribute]
      rw [later, quote, List.getLast?_concat] at member
      exact (Option.some.inj member).symm

theorem getLast?_tagText (isName : IsName name.toList) : (tagText name attributes).getLast? ≠ some '/' := by
  intro last
  rw [tagText, List.getLast?_append] at last
  cases later : (attributes.flatMap writtenAttribute).getLast? with
  | some c =>
    have quote := getLast?_attributes attributes c later
    rw [later, quote] at last
    cases last
  | none =>
    rw [later] at last
    exact (isName.plain '/' (List.mem_of_getLast? last)).slash rfl

theorem tagText_head (isName : IsName name.toList) (attributes : List (String × String)) :
    ∃ c more, tagText name attributes = c :: more ∧ IsPlain c := by
  obtain ⟨first, more, split, _⟩ := isName.starts
  refine ⟨first, more ++ attributes.flatMap writtenAttribute, by rw [tagText, split, List.cons_append], ?_⟩
  exact isName.plain first (by rw [split]; exact List.mem_cons_self)

theorem bracketed?_opening (isName : IsName name.toList) (named : ∀ pair ∈ attributes, IsName pair.1.toList)
    (names : List (List Char)) (rest : List Char) :
    bracketed? none names (tagText name attributes ++ '>' :: rest) =
      if (Markup.opening name attributes).IsDistinct then some ([.opening name attributes], name.toList :: names, rest)
      else none := by
  have ends : tagEnd? .outside (tagText name attributes ++ '>' :: rest) = some (tagText name attributes, rest) := by
    rw [tagEnd?_tagText isName named, tagEnd?, if_pos rfl]
    simp [prepend]
  obtain ⟨c, more, split, plain⟩ := tagText_head isName attributes
  rw [split, List.cons_append] at ends ⊢
  rw [bracketed?_tag plain, ends, ← split]
  simp only [Option.bind_some, getLast?_tagText isName, if_false, nameOf_tagText isName, tag?_tagText isName named,
    IsDistinct, Markup.attributes]
  by_cases distinct : (attributes.map (·.1)).Nodup <;> simp [distinct]

theorem bracketed?_closed (isName : IsName name.toList) (named : ∀ pair ∈ attributes, IsName pair.1.toList)
    (names : List (List Char)) (rest : List Char) :
    bracketed? none names (tagText name attributes ++ '/' :: '>' :: rest) =
      if (Markup.closed name attributes).IsDistinct then some ([.closed name attributes], names, rest) else none := by
  have ends : tagEnd? .outside (tagText name attributes ++ '/' :: '>' :: rest) =
      some (tagText name attributes ++ ['/'], rest) := by
    rw [tagEnd?_tagText isName named]
    simp [tagEnd?, prepend]
  obtain ⟨c, more, split, plain⟩ := tagText_head isName attributes
  rw [split, List.cons_append] at ends ⊢
  rw [bracketed?_tag plain, ends, ← split]
  simp only [Option.bind_some, List.getLast?_concat, List.dropLast_concat, if_true, tag?_tagText isName named,
    IsDistinct, Markup.attributes]
  by_cases distinct : (attributes.map (·.1)).Nodup <;> simp [distinct]

theorem withoutEnd_eq_self (plain : ∀ c ∈ s, isSpace c = false) : withoutEnd s = s := by
  have kept : s.reverse.dropWhile isSpace = s.reverse := by
    cases turned : s.reverse with
    | nil => rfl
    | cons c more =>
      have notSpace := plain c (List.mem_reverse.mp (by rw [turned]; exact List.mem_cons_self))
      simp [notSpace]
  rw [withoutEnd, kept, List.reverse_reverse]

theorem bracketed?_closing (isName : IsName name.toList) (names : List (List Char)) (rest : List Char) :
    bracketed? none (name.toList :: names) ('/' :: (name.toList ++ '>' :: rest)) =
      some ([.closing name], names, rest) := by
  have ends : tagEnd? .outside (name.toList ++ '>' :: rest) = some (name.toList, rest) := by
    rw [tagEnd?_name isName, tagEnd?, if_pos rfl]
    simp [prepend]
  have whole : withoutEnd name.toList = name.toList := withoutEnd_eq_self fun c member => (isName.plain c member).space
  have closes : bracketed? none (name.toList :: names) ('/' :: (name.toList ++ '>' :: rest)) =
      (tagEnd? .outside (name.toList ++ '>' :: rest)).bind fun (inner, rest) =>
        let found := if inner.all isSpace then inner else withoutEnd inner
        if found = name.toList then some ([.closing (lossy none found)], names, rest) else none := rfl
  have found : (if name.toList.all isSpace then name.toList else withoutEnd name.toList) = name.toList := by
    rw [whole, ite_self]
  rw [closes, ends, Option.bind_some]
  simp only [found, if_true]
  rw [lossy, Option.elim_none, String.ofList_toList]

/-! ## Texts -/

theorem texts?_escaped (s : List Char) : texts? none (escaped (s.dropWhile isSpace)) = some (shownText s) := by
  rw [texts?, withoutEnd_escaped, shownText]
  by_cases blank : withoutEnd (s.dropWhile isSpace) = []
  · simp [blank, escaped]
  · have filled : escaped (withoutEnd (s.dropWhile isSpace)) ≠ [] := fun none => blank (escaped_eq_nil.mp none)
    simp [blank, filled, strict?, unescaped?_escaped]

/-- A text that is followed by a tag or by nothing is what is read before it. -/
theorem takeWhile_escaped (ends : ∀ c ∈ rest.head?, c = '<') (s : List Char) :
    ((escaped s ++ rest).dropWhile isSpace).takeWhile (· != '<') = escaped (s.dropWhile isSpace) ∧
      ((escaped s ++ rest).dropWhile isSpace).dropWhile (· != '<') = rest := by
  have front : (escaped s ++ rest).dropWhile isSpace = escaped (s.dropWhile isSpace) ++ rest := by
    rw [List.dropWhile_append, dropWhile_escaped]
    split
    · rename_i blank
      rw [List.isEmpty_iff.mp blank, List.nil_append]
      cases rest with
      | nil => rfl
      | cons c rest =>
        have opens := ends c rfl
        subst opens
        rfl
    · rfl
  have inside : ∀ c ∈ escaped (s.dropWhile isSpace), (c != '<') = true := by
    intro c member
    have other : c ≠ '<' := by
      rintro rfl
      exact not_mem_escaped (by decide) _ member
    simpa using other
  have stops : ∀ c ∈ rest.head?, (c != '<') = false := fun c first => by simp [ends c first]
  rw [front]
  exact ⟨Text.takeWhile_of_stops inside stops, Text.dropWhile_of_stops inside stops⟩

theorem read?_text (fuel : Nat) (names : List (List Char)) (s : List Char) :
    read? none (fuel + 1) names (escaped s) = some (shownText s) := by
  have ends : ∀ c ∈ ([] : List Char).head?, c = '<' := nofun
  obtain ⟨before, after⟩ := takeWhile_escaped ends s
  rw [List.append_nil] at before after
  simp only [read?, before, after, texts?_escaped, Option.bind_some]

theorem read?_tag (fuel : Nat) (names : List (List Char)) (s rest : List Char) :
    read? none (fuel + 1) names (escaped s ++ '<' :: rest) =
      (bracketed? none names rest).bind fun (markup, names, rest) =>
        (read? none fuel names rest).map (shownText s ++ markup ++ ·) := by
  have ends : ∀ c ∈ ('<' :: rest).head?, c = '<' := by
    intro c member
    cases member
    rfl
  obtain ⟨before, after⟩ := takeWhile_escaped ends s
  simp only [read?, before, after, texts?_escaped, Option.bind_some]

/-! ## Markup -/

theorem escaped_append (s t : List Char) : escaped (s ++ t) = escaped s ++ escaped t := List.flatMap_append

/-- A tag that reads is put between the text before it and what comes after. -/
theorem read?_step {tag : Markup} {fuel : Nat} {names left : List (List Char)} {s rest after : List Char}
    {more : List Markup} {P : Prop} [Decidable P]
    (bracket : bracketed? none names rest = if tag.IsDistinct then some ([tag], left, after) else none)
    (later : read? none fuel left after = if P then some more else none) :
    read? none (fuel + 1) names (escaped s ++ '<' :: rest) =
      if tag.IsDistinct ∧ P then some (shownText s ++ tag :: more) else none := by
  rw [read?_tag, bracket]
  by_cases distinct : tag.IsDistinct
  · simp only [distinct, if_true, Option.bind_some, later, true_and]
    split <;> simp
  · simp [distinct]

/-- Written markup reads as what it shows, unless an attribute is there twice. -/
theorem read?_written {inside : List String} {markup : List Markup} (fits : Fits inside markup) (begun : List Char)
    {fuel : Nat} (enough : (markup.flatMap written).length < fuel) :
    read? none fuel (inside.map String.toList) (escaped begun ++ markup.flatMap written) =
      if ∀ each ∈ markup, each.IsDistinct then some (shown begun markup) else none := by
  induction markup generalizing inside begun fuel with
  | nil =>
    obtain ⟨fuel, rfl⟩ : ∃ less, fuel = less + 1 := ⟨fuel - 1, by omega⟩
    simp [read?_text, shown]
  | cons first markup ih =>
    rw [List.flatMap_cons, List.length_append] at enough
    -- after a tag no text has begun
    have later : ∀ {inside fuel}, Fits inside markup → (markup.flatMap written).length < fuel →
        read? none fuel (inside.map String.toList) (markup.flatMap written) =
          if ∀ each ∈ markup, each.IsDistinct then some (shown [] markup) else none :=
      fun fits enough => ih fits [] enough
    simp only [List.forall_mem_cons, List.flatMap_cons]
    cases first with
    | text value =>
      -- texts that meet are read as one, so the text goes to what has begun
      rw [written, ← List.append_assoc, ← escaped_append, ih fits (begun ++ value.toList) (by omega)]
      have distinct : (Markup.text value).IsDistinct := List.nodup_nil
      simp only [distinct, true_and, shown]
    | opening name attributes =>
      obtain ⟨isName, named, fits⟩ := fits
      simp only [written, List.length_cons, List.length_append] at enough
      obtain ⟨fuel, rfl⟩ : ∃ less, fuel = less + 1 := ⟨fuel - 1, by omega⟩
      simp only [written, List.cons_append, List.append_assoc, List.nil_append]
      exact read?_step (bracketed?_opening isName named _ _) (later fits (by omega))
    | closed name attributes =>
      obtain ⟨isName, named, fits⟩ := fits
      simp only [written, List.length_cons, List.length_append] at enough
      obtain ⟨fuel, rfl⟩ : ∃ less, fuel = less + 1 := ⟨fuel - 1, by omega⟩
      simp only [written, List.cons_append, List.append_assoc, List.nil_append]
      exact read?_step (bracketed?_closed isName named _ _) (later fits (by omega))
    | closing name =>
      cases inside with
      | nil => cases fits
      | cons innermost inside =>
        obtain ⟨rfl, isName, fits⟩ := fits
        simp only [written, List.length_cons, List.length_append] at enough
        obtain ⟨fuel, rfl⟩ : ∃ less, fuel = less + 1 := ⟨fuel - 1, by omega⟩
        simp only [written, List.cons_append, List.append_assoc, List.nil_append, List.map_cons]
        have distinct : (Markup.closing name).IsDistinct := List.nodup_nil
        exact read?_step (by rw [bracketed?_closing isName, if_pos distinct]) (later fits (by omega))

end Junction.Xml.Markup
