import Junction.Exchange.Placeholder
import Junction.Proofs.Text.Pieces
import Mathlib.Data.List.Infix
import Mathlib.Data.List.Count

/-!
Placeholders put in place. A template is cut into words and the characters around them (`isCut_iff`). The value of a word
goes to where the word stands first in the text as it is by then. That is its own place unless it stands in what comes
before: in an earlier value, or in a longer word that has none (`fillWords_eq_iff`).
-/

namespace Junction.Text

variable {start s rest before more tail : List Char} {c : Char}

theorem after?_eq_some_iff : after? start s = some rest ↔ s = start ++ rest := by
  induction start generalizing s with
  | nil => simp [after?, eq_comm]
  | cons a start ih =>
    cases s with
    | nil => simp [after?]
    | cons c s =>
      by_cases same : a = c
      · simp [after?, same, ih]
      · simp [after?, same, Ne.symm same]

theorem after?_eq_none_iff : after? start s = none ↔ ¬ start <+: s := by
  rw [Option.eq_none_iff_forall_ne_some]
  constructor
  · rintro no ⟨rest, rfl⟩
    exact no rest (after?_eq_some_iff.mpr rfl)
  · rintro no rest found
    exact no ⟨rest, (after?_eq_some_iff.mp found).symm⟩

/-- A word whose first character does not come again in it does not reach from one text into a word that follows. -/
theorem prefix_of_prefix_append (once : c ∉ tail) (long : before ≠ []) (begins : (c :: tail) <+: before ++ c :: more) :
    (c :: tail) <+: before := by
  obtain ⟨rest, same⟩ := begins
  rcases List.append_eq_append_iff.mp same with ⟨further, split, _⟩ | ⟨inner, split, follows⟩
  · exact ⟨further, split.symm⟩
  · cases inner with
    | nil => exact ⟨[], by rw [split, List.append_nil, List.append_nil]⟩
    | cons first inner =>
      obtain ⟨b, before, rfl⟩ := List.exists_cons_of_ne_nil long
      cases split
      cases follows
      exact absurd (List.mem_append_right before List.mem_cons_self) once

end Junction.Text

namespace Junction.Placeholder

/-! ## Cutting a template -/

/-- A piece of a template: a character outside of words, or a word, of which the hash is left out. -/
inductive Piece where
  | plain (c : Char)
  | word (tail : List Char)

namespace Piece

/-- The piece as it stands in the template. -/
def text : Piece → List Char
  | plain c => [c]
  | word tail => '#' :: tail

/-- The word that the piece is. -/
def word? : Piece → Option (List Char)
  | plain _ => none
  | word tail => some ('#' :: tail)

end Piece

/-- A text cut into words, each as long as it can be, and the characters outside of them, at which no word begins. -/
inductive IsCut : List Char → List Piece → Prop where
  | nil : IsCut [] []
  | plain {c : Char} {rest : List Char} {pieces : List Piece} (outside : c = '#' → ∀ next ∈ rest.head?, isWord next = false)
    (cut : IsCut rest pieces) : IsCut (c :: rest) (.plain c :: pieces)
  | word {tail rest : List Char} {pieces : List Piece} (long : tail ≠ []) (inside : ∀ c ∈ tail, isWord c = true)
    (longest : ∀ next ∈ rest.head?, isWord next = false) (cut : IsCut rest pieces) :
    IsCut ('#' :: (tail ++ rest)) (.word tail :: pieces)

/-- The pieces of the rest of a template; `skip` characters belong to the last word. -/
def piecesFrom : (skip : Nat) → List Char → List Piece
  | _, [] => []
  | skip + 1, _ :: rest => piecesFrom skip rest
  | 0, c :: rest =>
    let tail := rest.takeWhile isWord
    if c = '#' ∧ !tail.isEmpty then .word tail :: piecesFrom tail.length rest else .plain c :: piecesFrom 0 rest

/-- The pieces of a template. -/
def pieces (template : String) : List Piece := piecesFrom 0 template.toList

theorem wordsFrom_eq (skip : Nat) (s : List Char) : wordsFrom skip s = (piecesFrom skip s).filterMap Piece.word? := by
  induction s generalizing skip with
  | nil => cases skip <;> rfl
  | cons c rest ih =>
    cases skip with
    | succ skip => exact ih skip
    | zero =>
      by_cases starts : c = '#' ∧ !(rest.takeWhile isWord).isEmpty
      · simp only [wordsFrom, piecesFrom, if_pos starts, ih]
        rw [starts.1]
        rfl
      · simp only [wordsFrom, piecesFrom, if_neg starts, ih]
        rfl

theorem piecesFrom_skip (tail rest : List Char) : piecesFrom tail.length (tail ++ rest) = piecesFrom 0 rest := by
  induction tail with
  | nil => rfl
  | cons c tail ih => exact ih

theorem piecesFrom_of_isCut {s : List Char} {pieces : List Piece} (cut : IsCut s pieces) : piecesFrom 0 s = pieces := by
  induction cut with
  | nil => rfl
  | plain outside _ ih =>
    rename_i c rest pieces _
    have plain : ¬ (c = '#' ∧ !(rest.takeWhile isWord).isEmpty) := by
      rintro ⟨hash, long⟩
      have none : rest.takeWhile isWord = [] := Text.takeWhile_of_stops (s := []) nofun (outside hash)
      rw [none] at long
      cases long
    simp only [piecesFrom, if_neg plain, ih]
  | word long inside longest _ ih =>
    rename_i tail rest pieces _
    have taken := Text.takeWhile_of_stops inside longest
    simp [piecesFrom, taken, piecesFrom_skip, ih, long]

theorem ends_dropWhile (s : List Char) : ∀ next ∈ (s.dropWhile isWord).head?, isWord next = false := by
  intro next first
  have stops := List.head?_dropWhile_not isWord s
  rw [Option.mem_def.mp first] at stops
  exact stops

theorem isCut_drop (skip : Nat) (s : List Char) : IsCut (s.drop skip) (piecesFrom skip s) := by
  induction s generalizing skip with
  | nil =>
    rw [List.drop_nil]
    cases skip <;> exact .nil
  | cons c rest ih =>
    cases skip with
    | succ skip => exact ih skip
    | zero =>
      have whole : rest.takeWhile isWord ++ rest.dropWhile isWord = rest := List.takeWhile_append_dropWhile
      rw [List.drop_zero]
      by_cases starts : c = '#' ∧ !(rest.takeWhile isWord).isEmpty
      · have behind : rest.drop (rest.takeWhile isWord).length = rest.dropWhile isWord := by
          calc rest.drop (rest.takeWhile isWord).length
              = (rest.takeWhile isWord ++ rest.dropWhile isWord).drop (rest.takeWhile isWord).length := by rw [whole]
            _ = rest.dropWhile isWord := List.drop_left
        have cut := ih (rest.takeWhile isWord).length
        rw [behind] at cut
        simp only [piecesFrom, if_pos starts]
        have long : rest.takeWhile isWord ≠ [] := by simpa using starts.2
        have inside : ∀ c ∈ rest.takeWhile isWord, isWord c = true := List.all_eq_true.mp List.all_takeWhile
        have word := IsCut.word long inside (ends_dropWhile rest) cut
        rwa [whole, ← starts.1] at word
      · simp only [piecesFrom, if_neg starts]
        refine .plain ?_ (ih 0)
        rintro rfl next first
        have none : rest.takeWhile isWord = [] := by simpa using starts
        rw [none, List.nil_append] at whole
        exact ends_dropWhile rest next (whole.symm ▸ first)

theorem isCut_iff (template : String) (cut : List Piece) : IsCut template.toList cut ↔ cut = pieces template := by
  constructor
  · intro isCut
    exact (piecesFrom_of_isCut isCut).symm
  · rintro rfl
    exact isCut_drop 0 template.toList

/-! ## Marks -/

/-- A text whose characters are marked where they stand in a word that has a value and is still to be filled. -/
abbrev Marked := List (Char × Bool)

/-- A text without marks. -/
def settled (s : List Char) : Marked := s.map fun c => (c, false)

/-- A text that is marked. -/
def pending (s : List Char) : Marked := s.map fun c => (c, true)

/-- The text without its marks. -/
def unmarked (s : Marked) : List Char := s.map (·.1)

@[simp] theorem unmarked_settled (s : List Char) : unmarked (settled s) = s := by
  simp [settled, unmarked, Function.comp_def]

@[simp] theorem unmarked_pending (s : List Char) : unmarked (pending s) = s := by
  simp [pending, unmarked, Function.comp_def]

@[simp] theorem unmarked_append (s t : Marked) : unmarked (s ++ t) = unmarked s ++ unmarked t := List.map_append

theorem settled_append (s t : List Char) : settled (s ++ t) = settled s ++ settled t := List.map_append

/-- The first occurrence of `old` replaced by `new`, without regard to marks. -/
def replaceMarked (old new : List Char) : Marked → Marked
  | [] => if old.isEmpty then settled new else []
  | c :: s =>
    match Text.after? old (unmarked (c :: s)) with
    | some _ => settled new ++ (c :: s).drop old.length
    | none => c :: replaceMarked old new s

theorem unmarked_replaceMarked (old new : List Char) (s : Marked) :
    unmarked (replaceMarked old new s) = Text.replaceFirst old new (unmarked s) := by
  induction s with
  | nil => cases old <;> simp [replaceMarked, Text.replaceFirst, unmarked, settled, Function.comp_def]
  | cons c s ih =>
    have step : Text.replaceFirst old new (unmarked (c :: s)) =
        match Text.after? old (unmarked (c :: s)) with
        | some rest => new ++ rest
        | none => c.1 :: Text.replaceFirst old new (unmarked s) := rfl
    rw [step, replaceMarked]
    cases found : Text.after? old (unmarked (c :: s)) with
    | none => exact congrArg (c.1 :: ·) ih
    | some rest =>
      have split := Text.after?_eq_some_iff.mp found
      have behind : unmarked ((c :: s).drop old.length) = rest := by
        rw [unmarked, List.map_drop, ← unmarked, split, List.drop_left]
      rw [unmarked_append, unmarked_settled, behind]

variable {tail new before : List Char} {s : Marked}

theorem replaceMarked_of_begins (begins : ('#' :: tail) <+: unmarked s) :
    replaceMarked ('#' :: tail) new s = settled new ++ s.drop (tail.length + 1) := by
  obtain ⟨rest, split⟩ := begins
  cases s with
  | nil => cases split
  | cons c s => rw [replaceMarked, Text.after?_eq_some_iff.mpr split.symm, List.length_cons]

theorem replaceMarked_cons {c : Char × Bool} (other : ¬ ('#' :: tail) <+: unmarked (c :: s)) :
    replaceMarked ('#' :: tail) new (c :: s) = c :: replaceMarked ('#' :: tail) new s := by
  rw [replaceMarked, Text.after?_eq_none_iff.mpr other]

/-- A word that does not stand in what comes before is replaced at its own place. -/
theorem replaceMarked_of_absent (once : '#' ∉ tail) (absent : ¬ ('#' :: tail) <:+: before) (s : Marked) :
    replaceMarked ('#' :: tail) new (settled before ++ (pending ('#' :: tail) ++ s)) = settled (before ++ new) ++ s := by
  induction before with
  | nil =>
    have begins : ('#' :: tail) <+: unmarked (pending ('#' :: tail) ++ s) := by simp
    have length : (pending ('#' :: tail)).length = tail.length + 1 := by simp [pending]
    have behind : (pending ('#' :: tail) ++ s).drop (tail.length + 1) = s := by rw [← length, List.drop_left]
    exact (replaceMarked_of_begins begins).trans (congrArg (settled new ++ ·) behind)
  | cons c before ih =>
    rw [List.infix_cons_iff, not_or] at absent
    have other : ¬ ('#' :: tail) <+: unmarked ((c, false) :: (settled before ++ (pending ('#' :: tail) ++ s))) := by
      intro begins
      have split : unmarked ((c, false) :: (settled before ++ (pending ('#' :: tail) ++ s))) =
          (c :: before) ++ '#' :: (tail ++ unmarked s) := by
        change c :: unmarked (settled before ++ (pending ('#' :: tail) ++ s)) = _
        simp
      rw [split] at begins
      exact absent.1 (Text.prefix_of_prefix_append once (List.cons_ne_nil c before) begins)
    exact (replaceMarked_cons other).trans (congrArg ((c, false) :: ·) (ih absent.2))

/-- A word that stands in what comes before is replaced there. -/
theorem replaceMarked_of_infix (there : ('#' :: tail) <:+: before) (s : Marked) :
    ∃ changed, replaceMarked ('#' :: tail) new (settled before ++ s) = settled changed ++ s := by
  induction before with
  | nil => cases List.eq_nil_of_infix_nil there
  | cons c before ih =>
    by_cases begins : ('#' :: tail) <+: unmarked (settled (c :: before) ++ s)
    · have enough : tail.length + 1 ≤ (settled (c :: before)).length := by
        simpa [settled] using there.length_le
      refine ⟨new ++ (c :: before).drop (tail.length + 1), ?_⟩
      rw [replaceMarked_of_begins begins, List.drop_append_of_le_length enough, settled_append, List.append_assoc]
      simp only [settled, List.map_drop]
    · have inside : ('#' :: tail) <:+: before := by
        rcases List.infix_cons_iff.mp there with first | later
        · refine absurd (first.trans ?_) begins
          rw [unmarked_append, unmarked_settled]
          exact List.prefix_append ..
        · exact later
      obtain ⟨changed, same⟩ := ih inside
      exact ⟨c :: changed, (replaceMarked_cons begins).trans (congrArg ((c, false) :: ·) same)⟩

/-- The number of marked hashes. -/
def hashes (s : Marked) : Nat := s.count ('#', true)

theorem hashes_append (s t : Marked) : hashes (s ++ t) = hashes s + hashes t := List.count_append

theorem hashes_settled (s : List Char) : hashes (settled s) = 0 := by
  rw [hashes, List.count_eq_zero]
  intro member
  obtain ⟨c, _, same⟩ := List.mem_map.mp member
  cases same

theorem hashes_pending (once : '#' ∉ tail) : hashes (pending ('#' :: tail)) = 1 := by
  have behind : (pending tail).count ('#', true) = 0 := by
    rw [List.count_eq_zero]
    intro member
    obtain ⟨c, inside, same⟩ := List.mem_map.mp member
    cases same
    exact once inside
  exact List.count_cons_self.trans (congrArg (· + 1) behind)

/-- A word has one hash, so replacing it takes away at most one marked hash. -/
theorem hashes_replaceMarked (once : '#' ∉ tail) (new : List Char) (s : Marked) :
    hashes s ≤ hashes (replaceMarked ('#' :: tail) new s) + 1 := by
  induction s with
  | nil => exact Nat.zero_le _
  | cons c s ih =>
    by_cases begins : ('#' :: tail) <+: unmarked (c :: s)
    · -- the characters that give way spell the word, so one of them is a hash
      have taken : unmarked ((c :: s).take (tail.length + 1)) = '#' :: tail := by
        rw [unmarked, List.map_take]
        exact (List.prefix_iff_eq_take.mp begins).symm
      have single : hashes ((c :: s).take (tail.length + 1)) ≤ 1 := by
        calc hashes ((c :: s).take (tail.length + 1))
            ≤ (unmarked ((c :: s).take (tail.length + 1))).count '#' :=
              List.count_le_count_map
          _ = 1 := by rw [taken, List.count_cons_self, List.count_eq_zero.mpr once]
      have split : hashes (c :: s) =
          hashes ((c :: s).take (tail.length + 1)) + hashes ((c :: s).drop (tail.length + 1)) := by
        rw [← hashes_append, List.take_append_drop]
      rw [replaceMarked_of_begins begins, hashes_append]
      omega
    · rw [replaceMarked_cons begins, hashes, hashes, List.count_cons, List.count_cons]
      unfold hashes at ih
      omega

/-! ## Filling a template -/

section Filling

variable (value : List Char → Option (List Char))

namespace Piece

/-- The piece with its value in its place, if it has one. -/
def filled : Piece → List Char
  | plain c => [c]
  | word tail => (value ('#' :: tail)).getD ('#' :: tail)

/-- The piece as it stands in the template, marked if it has a value. -/
def marked : Piece → Marked
  | plain c => settled [c]
  | word tail => if (value ('#' :: tail)).isSome then pending ('#' :: tail) else settled ('#' :: tail)

end Piece

/-- One word filled in a marked text, as `fillWord` does in a text. -/
def fillMarked (s : Marked) (word : List Char) : Marked :=
  match value word with
  | some new => replaceMarked word new s
  | none => s

/-- The words of pieces filled in a marked text, one after another. -/
def fillWords (pieces : List Piece) (s : Marked) : Marked := (pieces.filterMap Piece.word?).foldl (fillMarked value) s

/-- No word that has a value stands in what comes before it once the words there are filled. -/
def Clear (before : List Char) (pieces : List Piece) : Prop :=
  ∀ earlier tail later, pieces = earlier ++ .word tail :: later → (value ('#' :: tail)).isSome →
    ¬ ('#' :: tail) <:+: before ++ earlier.flatMap (Piece.filled value)

variable {value} {piece : Piece} {pieces : List Piece}

theorem clear_cons : Clear value before (piece :: pieces) ↔
    (∀ tail, piece = .word tail → (value ('#' :: tail)).isSome → ¬ ('#' :: tail) <:+: before) ∧
      Clear value (before ++ piece.filled value) pieces := by
  constructor
  · intro clear
    constructor
    · rintro tail rfl filled
      simpa using clear [] tail pieces rfl filled
    · rintro earlier tail later rfl filled
      simpa using clear (piece :: earlier) tail later rfl filled
  · rintro ⟨here, rest⟩ (_ | ⟨first, earlier⟩) tail later same filled
    · cases same
      simpa using here tail rfl filled
    · cases same
      simpa using rest earlier tail later rfl filled

theorem fillWords_plain (c : Char) (pieces : List Piece) (s : Marked) :
    fillWords value (.plain c :: pieces) s = fillWords value pieces s := rfl

theorem fillWords_valueless (none : value ('#' :: tail) = none) (pieces : List Piece) (s : Marked) :
    fillWords value (.word tail :: pieces) s = fillWords value pieces s := by
  have step : fillWords value (.word tail :: pieces) s = fillWords value pieces (fillMarked value s ('#' :: tail)) := rfl
  rw [step, fillMarked, none]

theorem fillWords_word (found : value ('#' :: tail) = some new) (pieces : List Piece) (s : Marked) :
    fillWords value (.word tail :: pieces) s = fillWords value pieces (replaceMarked ('#' :: tail) new s) := by
  have step : fillWords value (.word tail :: pieces) s = fillWords value pieces (fillMarked value s ('#' :: tail)) := rfl
  rw [step, fillMarked, found]

/-- Filling words takes away at most as many marked hashes as there are words with a value. -/
theorem hashes_fillWords (once : ∀ tail, .word tail ∈ pieces → '#' ∉ tail) (s : Marked) :
    hashes s ≤ hashes (fillWords value pieces s) + hashes (pieces.flatMap (Piece.marked value)) := by
  induction pieces generalizing s with
  | nil => exact Nat.le_add_right ..
  | cons piece pieces ih =>
    have later := ih fun tail member => once tail (List.mem_cons_of_mem piece member)
    rw [List.flatMap_cons, hashes_append]
    cases piece with
    | plain c =>
      have rest := later s
      rw [fillWords_plain]
      omega
    | word tail =>
      cases found : value ('#' :: tail) with
      | none =>
        have rest := later s
        rw [fillWords_valueless found]
        omega
      | some new =>
        have step := hashes_replaceMarked (once tail List.mem_cons_self) new s
        have rest := later (replaceMarked ('#' :: tail) new s)
        have single : hashes (Piece.marked value (.word tail)) = 1 := by
          rw [Piece.marked, found]
          exact hashes_pending (once tail List.mem_cons_self)
        rw [fillWords_word found]
        omega

/-- Words are filled at their own places, behind a text that is settled, if and only if none with a value stands in what
comes before. -/
theorem fillWords_eq_iff (once : ∀ tail, .word tail ∈ pieces → '#' ∉ tail) (before : List Char) :
    fillWords value pieces (settled before ++ pieces.flatMap (Piece.marked value)) =
      settled (before ++ pieces.flatMap (Piece.filled value)) ↔ Clear value before pieces := by
  induction pieces generalizing before with
  | nil =>
    refine ⟨?_, fun _ => by simp [fillWords]⟩
    rintro _ earlier tail later same
    cases earlier <;> cases same
  | cons piece pieces ih =>
    have behind : ∀ tail, .word tail ∈ pieces → '#' ∉ tail := fun tail member => once tail (List.mem_cons_of_mem piece member)
    have later := ih behind (before ++ piece.filled value)
    rw [List.append_assoc before] at later
    rw [clear_cons, ← later, List.flatMap_cons, List.flatMap_cons, ← List.append_assoc]
    cases piece with
    | plain c =>
      have marked : Piece.marked value (.plain c) = settled (Piece.filled value (.plain c)) := rfl
      rw [fillWords_plain, marked, ← settled_append]
      exact (and_iff_right fun tail same => nomatch same).symm
    | word tail =>
      cases found : value ('#' :: tail) with
      | none =>
        have marked : Piece.marked value (.word tail) = settled (Piece.filled value (.word tail)) := by
          rw [Piece.marked, Piece.filled, found]
          rfl
        rw [fillWords_valueless found, marked, ← settled_append]
        refine (and_iff_right ?_).symm
        rintro _ ⟨⟩ filled
        rw [found] at filled
        cases filled
      | some new =>
        have marked : Piece.marked value (.word tail) = pending ('#' :: tail) := by
          rw [Piece.marked, found]
          rfl
        have filled : Piece.filled value (.word tail) = new := by
          rw [Piece.filled, found]
          rfl
        have hashless := once tail List.mem_cons_self
        rw [fillWords_word found, marked, filled, List.append_assoc (settled before)]
        by_cases there : ('#' :: tail) <:+: before
        · -- The value goes elsewhere. The marked hash of the word is left, and no later word has one to spare for it.
          obtain ⟨changed, same⟩ :=
            replaceMarked_of_infix there (pending ('#' :: tail) ++ pieces.flatMap (Piece.marked value))
          rw [same]
          constructor
          · intro equal
            have spared := @hashes_fillWords value pieces behind
              (settled changed ++ (pending ('#' :: tail) ++ pieces.flatMap (Piece.marked value)))
            rw [equal, hashes_append, hashes_append, hashes_settled, hashes_settled, hashes_pending hashless] at spared
            omega
          · rintro ⟨clear, _⟩
            exact absurd there (clear tail rfl (by rw [found]; rfl))
        · rw [replaceMarked_of_absent hashless there]
          refine (and_iff_right ?_).symm
          rintro _ ⟨⟩ _
          exact there

end Filling

/-! ## What a template stands for -/

/-- The value of a word, as characters. -/
def valueOf (request : Request) (response : Response) (word : List Char) : Option (List Char) :=
  (value? request response word).map (·.toList)

/-- A template filled word by word, with the marks of its words. -/
def trace (request : Request) (response : Response) (pieces : List Piece) : Marked :=
  fillWords (valueOf request response) pieces (pieces.flatMap (Piece.marked (valueOf request response)))

variable {request : Request} {response : Response}

theorem unmarked_fillWords (pieces : List Piece) (s : Marked) :
    unmarked (fillWords (valueOf request response) pieces s) =
      (pieces.filterMap Piece.word?).foldl (fillWord request response) (unmarked s) := by
  rw [fillWords]
  induction pieces.filterMap Piece.word? generalizing s with
  | nil => rfl
  | cons word words ih =>
    rw [List.foldl_cons, List.foldl_cons, ih, fillMarked, fillWord, valueOf]
    cases value? request response word with
    | none => rfl
    | some value => simp only [Option.map_some, unmarked_replaceMarked]

theorem unmarked_marked (value : List Char → Option (List Char)) (piece : Piece) :
    unmarked (piece.marked value) = piece.text := by
  cases piece with
  | plain c => rfl
  | word tail =>
    rw [Piece.marked]
    split
    · exact unmarked_pending _
    · exact unmarked_settled _

theorem text_of_isCut {s : List Char} {pieces : List Piece} (cut : IsCut s pieces) : pieces.flatMap Piece.text = s := by
  induction cut with
  | nil => rfl
  | plain _ _ ih => rw [List.flatMap_cons, ih]; rfl
  | word _ _ _ _ ih => rw [List.flatMap_cons, ih]; rfl

theorem hashless_of_isCut {s : List Char} {pieces : List Piece} (cut : IsCut s pieces) :
    ∀ tail, .word tail ∈ pieces → '#' ∉ tail := by
  induction cut with
  | nil => nofun
  | plain _ _ ih => intro tail member; exact ih tail (by simpa using member)
  | word _ inside _ _ ih =>
    intro tail member
    rcases List.mem_cons.mp member with same | later
    · cases same
      intro hash
      exact absurd (inside '#' hash) (by decide)
    · exact ih tail later

theorem unmarked_trace (template : String) (request : Request) (response : Response) :
    unmarked (trace request response (pieces template)) = (resolve template request response).toList := by
  have text : ∀ pieces : List Piece, unmarked (pieces.flatMap (Piece.marked (valueOf request response))) =
      pieces.flatMap Piece.text := by
    intro pieces
    simp only [unmarked, List.map_flatMap]
    exact List.flatMap_congr fun piece _ => unmarked_marked _ piece
  have cut := isCut_drop 0 template.toList
  rw [trace, unmarked_fillWords, text, pieces, text_of_isCut cut, resolve, words, wordsFrom_eq, String.toList_ofList]
  rfl

/-- What a template stands for. It is cut into words in one way, and its words are filled one after another, which the marks
show. Every value is in the place of its own word, and all else is as in the template, if and only if no word that has a
value stands in what comes before it, as that is once the words there are filled. -/
theorem resolve_inPlace_iff (template : String) (request : Request) (response : Response) :
    (∀ cut, IsCut template.toList cut ↔ cut = pieces template) ∧
    (resolve template request response).toList = unmarked (trace request response (pieces template)) ∧
    (trace request response (pieces template) =
        settled ((pieces template).flatMap (Piece.filled (valueOf request response))) ↔
      Clear (valueOf request response) [] (pieces template)) ∧
    (Clear (valueOf request response) [] (pieces template) →
      resolve template request response =
        String.ofList ((pieces template).flatMap (Piece.filled (valueOf request response)))) := by
  have hashless := hashless_of_isCut (isCut_drop 0 template.toList)
  have inPlace : trace request response (pieces template) =
      settled ((pieces template).flatMap (Piece.filled (valueOf request response))) ↔
        Clear (valueOf request response) [] (pieces template) :=
    fillWords_eq_iff hashless []
  refine ⟨isCut_iff template, (unmarked_trace template request response).symm, inPlace, ?_⟩
  intro clear
  rw [← String.toList_inj, String.toList_ofList, ← unmarked_trace, inPlace.mpr clear, unmarked_settled]

/-- A request with one parameter. -/
def single : Request := { params := .ofPairs [("a", "1")] }

/-- A word that has no value loses its beginning to a shorter word behind it, which stays as it is. -/
theorem resolve_shorterBehind :
    resolve "#request.params.ab #request.params.a" single {} = "1b #request.params.a" ∧
      (pieces "#request.params.ab #request.params.a").flatMap (Piece.filled (valueOf single {})) =
        "#request.params.ab 1".toList := by
  constructor
  · decide
  · decide

end Junction.Placeholder
