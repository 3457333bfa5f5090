import Junction.Proofs.Json.Digits
import Junction.Proofs.Json.Dotted
import Junction.Proofs.Json.Write

/-!
Spellings of a path. A name stands behind a dot or in brackets, there bare or between quotes, and an index stands in
brackets. A scan keeps what it has read of a name until a dot or a bracket ends it, so that behind any name the steps
that are spelled are the steps that are read (`segments_flatMap`). All spellings of a path address one place
(`spellings_onePlace`).
-/

namespace Junction.Json.Path

variable {name s : List Char}

/-! ## Steps in writing -/

/-- What stands on both sides of a name in brackets. -/
inductive Quotes where
  | none
  | single
  | double

/-- The quote, if there is one. -/
def Quotes.mark : Quotes → List Char
  | none => []
  | single => ['\'']
  | double => ['\x22']

/-- A step as it is spelled. -/
inductive Spelling where
  | dotted (name : String)
  | index (position : Nat)
  | bracketed (quotes : Quotes) (name : String)

namespace Spelling

/-- The step that is meant. -/
def segment : Spelling → Segment
  | dotted name => .key name
  | index position => .index position
  | bracketed _ name => .key name

/-- The text of a step behind others. -/
def text : Spelling → List Char
  | dotted name => '.' :: name.toList
  | index position => '[' :: (toString position).toList ++ [']']
  | bracketed quotes name => '[' :: (quotes.mark ++ name.toList ++ quotes.mark) ++ [']']

end Spelling

/-- A name that can stand behind a dot. -/
structure IsDottedName (name : List Char) : Prop where
  nonempty : name ≠ []
  undotted : '.' ∉ name
  unbracketed : '[' ∉ name
  tight : Text.Tight name
  rootless : name.head? ≠ some '$'

/-- A name that can stand in brackets. -/
structure IsBracketedName (name : List Char) : Prop where
  nonempty : name ≠ []
  unclosed : ']' ∉ name
  first : ∀ c ∈ name.head?, isQuote c = false
  last : ∀ c ∈ name.getLast?, isQuote c = false
  named : Text.word? name = none

/-- A step that can be spelled so: its name can stand where it does, its index is a word. -/
def Spelling.IsOrdinary : Spelling → Prop
  | dotted name => IsDottedName name.toList
  | index position => position ≤ Text.wordLimit
  | bracketed _ name => IsBracketedName name.toList

/-- Steps one after another; a name that comes first has no dot in front. -/
def spelled : List Spelling → List Char
  | .dotted name :: rest => name.toList ++ rest.flatMap Spelling.text
  | steps => steps.flatMap Spelling.text

/-- A path in writing, with `$.` in front or without it. -/
def written (rooted : Bool) (steps : List Spelling) : String :=
  String.ofList ((if rooted then ['$', '.'] else []) ++ spelled steps)

variable {steps : List Spelling}

/-! ## In brackets -/

theorem isQuote_of_mem_mark {quotes : Quotes} {c : Char} (member : c ∈ quotes.mark) : isQuote c = true := by
  cases quotes with
  | none => cases member
  | single | double =>
    cases List.mem_singleton.mp member
    rfl

/-- Quotes around a text that neither begins nor ends with one are taken off. -/
theorem unquoted_marked (quotes : Quotes) (nonempty : s ≠ []) (first : ∀ c ∈ s.head?, isQuote c = false)
    (last : ∀ c ∈ s.getLast?, isQuote c = false) : unquoted (quotes.mark ++ s ++ quotes.mark) = s := by
  have front : (quotes.mark ++ (s ++ quotes.mark)).dropWhile isQuote = s ++ quotes.mark := by
    apply Text.dropWhile_of_stops fun c member => isQuote_of_mem_mark member
    rwa [List.head?_append_of_ne_nil s nonempty]
  have back : (quotes.mark.reverse ++ s.reverse).dropWhile isQuote = s.reverse := by
    apply Text.dropWhile_of_stops fun c member => isQuote_of_mem_mark (List.mem_reverse.mp member)
    rwa [List.head?_reverse]
  rw [unquoted, List.append_assoc, front, List.reverse_append, back, List.reverse_reverse]

theorem bracketedSegment_name (quotes : Quotes) (ordinary : IsBracketedName name) :
    bracketedSegment (quotes.mark ++ name ++ quotes.mark) = [.key (String.ofList name)] := by
  rw [bracketedSegment, unquoted_marked quotes ordinary.nonempty ordinary.first ordinary.last]
  simp only [ordinary.named]
  rw [if_neg (by rw [List.isEmpty_iff]; exact ordinary.nonempty)]

theorem isQuote_of_mem_toString {position : Nat} {c : Char} (member : c ∈ (toString position).toList) :
    isQuote c = false := by
  have digit := Decimal.isDigit_of_mem_toString member
  rw [isQuote, Bool.or_eq_false_iff, beq_eq_false_iff_ne, beq_eq_false_iff_ne]
  constructor <;>
  · rintro rfl
    cases digit

theorem bracketedSegment_index {position : Nat} (fits : position ≤ Text.wordLimit) :
    bracketedSegment (toString position).toList = [.index position] := by
  have bare : unquoted (toString position).toList = (toString position).toList := by
    have nonempty : (toString position).toList ≠ [] := by
      rw [Decimal.toList_toString]
      exact Nat.toDigits_ne_nil
    have marked := unquoted_marked .none nonempty
      (fun c first => isQuote_of_mem_toString (List.mem_of_mem_head? first))
      (fun c last => isQuote_of_mem_toString (List.mem_of_mem_getLast? last))
    rwa [Quotes.mark, List.nil_append, List.append_nil] at marked
  rw [bracketedSegment, bare]
  simp only [Decimal.word?_toString fits]

theorem bracket_not_mem_toString (position : Nat) : ']' ∉ (toString position).toList := by
  intro member
  cases Decimal.isDigit_of_mem_toString member

/-! ## The scan -/

theorem segments_dotted_append (undotted : '.' ∉ s) (unbracketed : '[' ∉ s) (name rest : List Char) :
    segments (.dotted name) (s ++ rest) = segments (.dotted (name ++ s)) rest := by
  induction s generalizing name with
  | nil => rw [List.nil_append, List.append_nil]
  | cons c s ih =>
    simp only [List.mem_cons, not_or] at undotted unbracketed
    rw [List.cons_append, segments, if_neg (Ne.symm undotted.1), if_neg (Ne.symm unbracketed.1),
      ih undotted.2 unbracketed.2, List.append_assoc, List.singleton_append]

theorem segments_bracketed_append (unclosed : ']' ∉ s) (inner rest : List Char) :
    segments (.bracketed inner) (s ++ ']' :: rest) = bracketedSegment (inner ++ s) ++ segments (.dotted []) rest := by
  induction s generalizing inner with
  | nil => rw [List.nil_append, List.append_nil, segments, if_pos rfl]
  | cons c s ih =>
    simp only [List.mem_cons, not_or] at unclosed
    rw [List.cons_append, segments, if_neg (Ne.symm unclosed.1), ih unclosed.2, List.append_assoc,
      List.singleton_append]

theorem segments_bracket (unclosed : ']' ∉ s) (name rest : List Char) :
    segments (.dotted name) ('[' :: s ++ [']'] ++ rest) =
      dottedSegment name ++ (bracketedSegment s ++ segments (.dotted []) rest) := by
  have closing : '[' :: s ++ [']'] ++ rest = '[' :: (s ++ ']' :: rest) := by simp
  rw [closing, segments, if_neg (by decide), if_pos rfl, segments_bracketed_append unclosed, List.nil_append]

theorem dottedSegment_name (nonempty : name ≠ []) : dottedSegment name = [.key (String.ofList name)] := by
  rw [dottedSegment, if_neg (by rwa [List.isEmpty_iff])]

/-- Behind the name that is being read, the steps are read that are spelled. -/
theorem segments_flatMap (ordinary : ∀ step ∈ steps, step.IsOrdinary) (name : List Char) :
    segments (.dotted name) (steps.flatMap Spelling.text) = dottedSegment name ++ steps.map Spelling.segment := by
  induction steps generalizing name with
  | nil => rw [List.flatMap_nil, segments, List.map_nil, List.append_nil]
  | cons step steps ih =>
    obtain ⟨here, later⟩ := List.forall_mem_cons.mp ordinary
    rw [List.flatMap_cons, List.map_cons]
    cases step with
    | dotted next =>
      rw [Spelling.text, List.cons_append, segments, if_pos rfl, segments_dotted_append here.undotted here.unbracketed,
        List.nil_append, ih later, dottedSegment_name here.nonempty, String.ofList_toList]
      rfl
    | index position =>
      rw [Spelling.text, segments_bracket (bracket_not_mem_toString position), bracketedSegment_index here,
        ih later]
      rfl
    | bracketed quotes next =>
      have unclosed : ']' ∉ quotes.mark ++ next.toList ++ quotes.mark := by
        have mark : ']' ∉ quotes.mark := fun member => by cases isQuote_of_mem_mark member
        simp [mark, here.unclosed]
      rw [Spelling.text, segments_bracket unclosed, bracketedSegment_name quotes here, ih later, String.ofList_toList]
      rfl

theorem segments_spelled (ordinary : ∀ step ∈ steps, step.IsOrdinary) :
    segments (.dotted []) (spelled steps) = steps.map Spelling.segment := by
  unfold spelled
  split
  · rename_i name rest
    obtain ⟨here, later⟩ := List.forall_mem_cons.mp ordinary
    rw [segments_dotted_append here.undotted here.unbracketed, List.nil_append, segments_flatMap later,
      dottedSegment_name here.nonempty, String.ofList_toList]
    rfl
  · exact segments_flatMap ordinary []

/-! ## The ends -/

theorem head_spelled (ordinary : ∀ step ∈ steps, step.IsOrdinary) :
    ∀ c ∈ (spelled steps).head?, Text.isWhite c = false ∧ c ≠ '$' := by
  intro c first
  cases steps with
  | nil => cases first
  | cons step rest =>
    have here := ordinary step List.mem_cons_self
    cases step with
    | dotted name =>
      have inName : name.toList.head? = some c := by
        rw [spelled, List.head?_append_of_ne_nil _ here.nonempty] at first
        exact first
      refine ⟨here.tight.first c inName, ?_⟩
      rintro rfl
      exact here.rootless inName
    | index | bracketed =>
      cases first
      exact ⟨rfl, by decide⟩

theorem last_append_text {step : Spelling} (ordinary : step.IsOrdinary) (front : List Char) :
    ∀ c ∈ (front ++ step.text).getLast?, Text.isWhite c = false := by
  intro c last
  cases step with
  | dotted name =>
    rw [Spelling.text, List.append_cons, List.getLast?_append_of_ne_nil _ ordinary.nonempty] at last
    exact ordinary.tight.last c last
  | index | bracketed =>
    rw [Spelling.text, ← List.append_assoc, List.getLast?_concat] at last
    cases last
    rfl

theorem last_append_flatMap (ordinary : ∀ step ∈ steps, step.IsOrdinary) {front : List Char}
    (closed : ∀ c ∈ front.getLast?, Text.isWhite c = false) :
    ∀ c ∈ (front ++ steps.flatMap Spelling.text).getLast?, Text.isWhite c = false := by
  induction steps generalizing front with
  | nil => rwa [List.flatMap_nil, List.append_nil]
  | cons step steps ih =>
    obtain ⟨here, later⟩ := List.forall_mem_cons.mp ordinary
    rw [List.flatMap_cons, ← List.append_assoc]
    exact ih later (last_append_text here front)

theorem last_append_spelled (ordinary : ∀ step ∈ steps, step.IsOrdinary) {front : List Char}
    (closed : ∀ c ∈ front.getLast?, Text.isWhite c = false) :
    ∀ c ∈ (front ++ spelled steps).getLast?, Text.isWhite c = false := by
  unfold spelled
  split
  · rename_i name rest
    obtain ⟨here, later⟩ := List.forall_mem_cons.mp ordinary
    rw [← List.append_assoc]
    apply last_append_flatMap later
    rw [List.getLast?_append_of_ne_nil _ here.nonempty]
    exact here.tight.last
  · exact last_append_flatMap ordinary closed

/-- A path in writing is read as the steps that are spelled. -/
theorem ofText_written (rooted : Bool) (ordinary : ∀ step ∈ steps, step.IsOrdinary) :
    ofText (written rooted steps) = steps.map Spelling.segment := by
  have head := head_spelled ordinary
  have rootless : (spelled steps).head? ≠ some '$' := fun first => (head '$' first).2 rfl
  have bare : without ['$'] (without ['$', '.'] (Text.trimmed (written rooted steps).toList)) = spelled steps := by
    rw [written, String.toList_ofList]
    cases rooted with
    | false =>
      have tight : Text.Tight ([] ++ spelled steps) :=
        ⟨fun c first => (head c first).1, last_append_spelled ordinary fun c last => by cases last⟩
      rw [if_neg Bool.false_ne_true, Text.trimmed_eq_self tight, List.nil_append, without_of_head? _ rootless,
        without_of_head? _ rootless]
    | true =>
      have tight : Text.Tight (['$', '.'] ++ spelled steps) :=
        ⟨fun c first => by cases first; rfl, last_append_spelled ordinary fun c last => by cases last; rfl⟩
      have root : without ['$', '.'] (['$', '.'] ++ spelled steps) = spelled steps := rfl
      rw [if_pos rfl, Text.trimmed_eq_self tight, root, without_of_head? _ rootless]
  rw [ofText, bare, segments_spelled ordinary]

/-! ## Places -/

/-- Two paths in writing address one place: the same is read there, written there and removed from there, so that what is
written through the one is read through the other. -/
structure OnePlace (one other : String) : Prop where
  get : ∀ value : Json, value.get? (ofText one) = value.get? (ofText other)
  set : ∀ value new : Json, value.set (ofText one) new = value.set (ofText other) new
  delete : ∀ value : Json, value.delete? (ofText one) = value.delete? (ofText other)
  readBack : ∀ value new changed : Json, value.set (ofText one) new = .ok changed →
    changed.get? (ofText other) = some new

theorem onePlace_of_ofText {one other : String} (same : ofText one = ofText other) : OnePlace one other where
  get value := by rw [same]
  set value new := by rw [same]
  delete value := by rw [same]
  readBack value new changed written := by
    rw [same] at written
    exact get?_setAt (setAt_of_set written)

/-- However the steps of a path are spelled, the text is read as these steps, and all spellings of them address one
place. -/
theorem spellings_onePlace (ordinary : ∀ step ∈ steps, step.IsOrdinary) :
    (∀ rooted, ofText (written rooted steps) = steps.map Spelling.segment) ∧
      ∀ others : List Spelling, (∀ step ∈ others, step.IsOrdinary) →
        others.map Spelling.segment = steps.map Spelling.segment →
        ∀ rooted otherRooted, OnePlace (written rooted steps) (written otherRooted others) := by
  have reads : ∀ rooted, ofText (written rooted steps) = steps.map Spelling.segment :=
    fun rooted => ofText_written rooted ordinary
  refine ⟨reads, ?_⟩
  intro others otherOrdinary sameSteps rooted otherRooted
  apply onePlace_of_ofText
  rw [reads, ofText_written otherRooted otherOrdinary, sameSteps]

/-- The price in a line of an order, its line behind a dot. -/
def price : List Spelling := [.dotted "order", .index 12, .bracketed .none "price.net (EUR)"]

/-- The same price in brackets alone. -/
def quotedPrice : List Spelling := [.bracketed .single "order", .index 12, .bracketed .double "price.net (EUR)"]

theorem spellings_onePlace_price :
    (∀ step ∈ price, step.IsOrdinary) ∧ (∀ step ∈ quotedPrice, step.IsOrdinary) ∧
      quotedPrice.map Spelling.segment = price.map Spelling.segment ∧
      ofText "$.order[12][price.net (EUR)]" = [.key "order", .index 12, .key "price.net (EUR)"] ∧
      OnePlace "$.order[12][price.net (EUR)]" "['order'][12][\x22price.net (EUR)\x22]" := by
  have order : IsDottedName "order".toList :=
    ⟨by decide, by decide, by decide, ⟨by rintro c ⟨⟩; rfl, by rintro c ⟨⟩; rfl⟩, by decide⟩
  have quotedOrder : IsBracketedName "order".toList :=
    ⟨by decide, by decide, by rintro c ⟨⟩; rfl, by rintro c ⟨⟩; rfl, by decide⟩
  have net : IsBracketedName "price.net (EUR)".toList :=
    ⟨by decide, by decide, by rintro c ⟨⟩; rfl, by rintro c ⟨⟩; rfl, by decide⟩
  have line : 12 ≤ Text.wordLimit := by decide
  have ordinary : ∀ step ∈ price, step.IsOrdinary := by
    simpa [price, Spelling.IsOrdinary] using ⟨order, line, net⟩
  have otherOrdinary : ∀ step ∈ quotedPrice, step.IsOrdinary := by
    simpa [quotedPrice, Spelling.IsOrdinary] using ⟨quotedOrder, line, net⟩
  obtain ⟨reads, onePlace⟩ := spellings_onePlace ordinary
  exact ⟨ordinary, otherOrdinary, rfl, reads true, onePlace quotedPrice otherOrdinary rfl true false⟩

end Junction.Json.Path
