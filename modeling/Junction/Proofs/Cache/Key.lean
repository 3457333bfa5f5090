import Junction.Cache.Key
import Junction.Proofs.Data.Multimap
import Junction.Proofs.Text.Joined
import Mathlib.Algebra.GroupWithZero.Nat

/-!
When two requests have one key. A key joins its parts with colons and the values of a header with commas, and
escapes neither; so parts are lost exactly where they hold separators of their own, or where values are empty.
-/

namespace Junction.Cache

open Text (split_eq_of_count eq_of_intercalate_eq)

/-! ## The parts of a key -/

/-- What a key is made of: method, URL, and the values of each header that tells responses apart. -/
def parts (request : Request) (caching : Config.Caching) : List String :=
  request.method :: request.url ::
    caching.strategyHeaders.map fun name => ",".intercalate (request.header.getAll name)

theorem toList_foldl_parts (names : List String) (text : String → String) (start : String) :
    (names.foldl (fun key name => key ++ ":" ++ text name) start).toList =
      [':'].intercalate (start.toList :: names.map fun name => (text name).toList) := by
  induction names generalizing start with
  | nil => simp
  | cons name names ih =>
    rw [List.foldl_cons, ih]
    cases names with
    | nil => simp [List.intercalate_cons_cons]
    | cons next names => simp [List.intercalate_cons_cons]

theorem toList_key (request : Request) (caching : Config.Caching) :
    (key request caching).toList = [':'].intercalate ((parts request caching).map String.toList) := by
  rw [key, toList_foldl_parts]
  cases names : caching.strategyHeaders with
  | nil => simp [parts, names, List.intercalate_cons_cons]
  | cons name rest => simp [parts, names, List.intercalate_cons_cons, Function.comp_def]

theorem count_intercalate {c separator : Char} (other : separator ≠ c) (texts : List (List Char)) :
    ([separator].intercalate texts).count c = (texts.map (List.count c)).sum := by
  induction texts with
  | nil => rfl
  | cons text texts ih =>
    cases texts with
    | nil => simp
    | cons next texts =>
      rw [List.intercalate_cons_cons, List.count_append, List.count_append, ih]
      simp [other]

/-! ## Requests with one key -/

/-- Requests that a key must not tell apart, and the only ones that it may take for one. -/
structure SameParts (caching : Config.Caching) (one other : Request) : Prop where
  method : one.method = other.method
  url : one.url = other.url
  headers : ∀ name ∈ caching.strategyHeaders, one.header.getAll name = other.header.getAll name

/-- The number of colons and of commas in a text. -/
def separators (text : String) : Nat × Nat := (text.toList.count ':', text.toList.count ',')

/-- Requests whose parts hold equally many separators, value by value. -/
structure SameSeparators (caching : Config.Caching) (one other : Request) : Prop where
  method : (separators one.method).1 = (separators other.method).1
  url : (separators one.url).1 = (separators other.url).1
  headers : ∀ name ∈ caching.strategyHeaders,
    (one.header.getAll name).map separators = (other.header.getAll name).map separators

variable {caching : Config.Caching} {one other : Request}

theorem key_eq_of_sameParts (same : SameParts caching one other) : key one caching = key other caching := by
  apply String.toList_injective
  rw [toList_key, toList_key]
  have texts : (caching.strategyHeaders.map fun name => ",".intercalate (one.header.getAll name)) =
      caching.strategyHeaders.map fun name => ",".intercalate (other.header.getAll name) := by
    apply List.map_inj_left.mpr
    intro name member
    rw [same.headers name member]
  rw [parts, parts, same.method, same.url, texts]

theorem sameSeparators_of_sameParts (same : SameParts caching one other) : SameSeparators caching one other := by
  refine ⟨?_, ?_, ?_⟩
  · rw [same.method]
  · rw [same.url]
  · intro name member
    rw [same.headers name member]

theorem count_values {c : Char} (comma : ',' ≠ c) (values : List String) :
    (",".intercalate values).toList.count c = (values.map fun value => value.toList.count c).sum := by
  rw [String.toList_intercalate, show ",".toList = [','] from rfl, count_intercalate comma, List.map_map]
  rfl

/-- Values that hold equally many commas, one by one, are told apart in the text that joins them. -/
theorem values_eq_of_intercalate_eq {values others : List String}
    (same : ",".intercalate values = ",".intercalate others)
    (counts : values.map separators = others.map separators) : values = others := by
  have lists := congrArg String.toList same
  rw [String.toList_intercalate, String.toList_intercalate, show ",".toList = [','] from rfl] at lists
  have commas : (values.map String.toList).map (List.count ',') = (others.map String.toList).map (List.count ',') := by
    simpa [List.map_map, Function.comp_def, separators] using congrArg (List.map Prod.snd) counts
  exact (List.map_inj_right fun _ _ => String.toList_injective).mp (eq_of_intercalate_eq lists commas)

theorem sameParts_of_key_eq (same : key one caching = key other caching)
    (counts : SameSeparators caching one other) : SameParts caching one other := by
  have lists := congrArg String.toList same
  rw [toList_key, toList_key] at lists
  have colons : ((parts one caching).map String.toList).map (List.count ':') =
      ((parts other caching).map String.toList).map (List.count ':') := by
    simp only [parts, List.map_cons, List.map_map, List.cons.injEq]
    refine ⟨counts.method, counts.url, List.map_inj_left.mpr ?_⟩
    intro name member
    have each := congrArg (List.map Prod.fst) (counts.headers name member)
    simp only [List.map_map] at each
    change (",".intercalate (one.header.getAll name)).toList.count ':' =
      (",".intercalate (other.header.getAll name)).toList.count ':'
    rw [count_values (by decide), count_values (by decide)]
    exact congrArg List.sum each
  have texts := (List.map_inj_right fun _ _ => String.toList_injective).mp (eq_of_intercalate_eq lists colons)
  simp only [parts, List.cons.injEq] at texts
  obtain ⟨method, url, joined⟩ := texts
  refine ⟨method, url, ?_⟩
  intro name member
  exact values_eq_of_intercalate_eq (List.map_inj_left.mp joined name member) (counts.headers name member)

/-- Of requests with one key, those with the same separators are alike in all that the key is made of, and no
others are. -/
theorem sameParts_iff_key_eq (caching : Config.Caching) (one other : Request) :
    SameParts caching one other ↔ key one caching = key other caching ∧ SameSeparators caching one other := by
  constructor
  · intro same
    exact ⟨key_eq_of_sameParts same, sameSeparators_of_sameParts same⟩
  · rintro ⟨same, counts⟩
    exact sameParts_of_key_eq same counts

/-- Two tenants share a key: a colon of a value reads as one between parts. -/
theorem key_eq_of_colon :
    key { url := "/e", header := Header.empty.set "X-Tenant" "a:b" } { strategyHeaders := ["X-Tenant", "X-Region"] } =
        key { url := "/e", header := (Header.empty.set "X-Tenant" "a").set "X-Region" "b:" }
          { strategyHeaders := ["X-Tenant", "X-Region"] } ∧
      (Header.empty.set "X-Tenant" "a:b").getAll "X-Tenant" ≠
        ((Header.empty.set "X-Tenant" "a").set "X-Region" "b:").getAll "X-Tenant" := by
  decide +kernel

/-! ## Configurations without lost parts -/

/-- Keys tell requests apart, whose methods are tokens, just where no header is to tell responses apart: a header
without values and one with an empty value are taken for one. -/
theorem key_injective_iff (caching : Config.Caching) :
    (∀ one other : Request, ':' ∉ one.method.toList → ':' ∉ other.method.toList →
      key one caching = key other caching → SameParts caching one other) ↔ caching.strategyHeaders = [] := by
  constructor
  · intro injective
    cases names : caching.strategyHeaders with
    | nil => rfl
    | cons name rest =>
      have values : ∀ given, ((Header.empty.set name "").getAll given) = [""] ∨
          ((Header.empty.set name "").getAll given) = [] := by
        intro given
        simp only [Header.getAll, Header.set, Multimap.getAll_set]
        split
        · exact .inl rfl
        · exact .inr rfl
      have same : key {} caching = key { header := Header.empty.set name "" } caching := by
        apply String.toList_injective
        rw [toList_key, toList_key]
        have texts : ∀ given, ",".intercalate (({} : Request).header.getAll given) =
            ",".intercalate ((Header.empty.set name "").getAll given) := by
          intro given
          rcases values given with one | none
          · rw [one]; rfl
          · rw [none]; rfl
        simp only [parts, texts]
      have token : ':' ∉ "GET".toList := by decide
      have alike := (injective {} { header := Header.empty.set name "" } token token same).headers name
        (names ▸ List.mem_cons_self)
      simp [Header.getAll, Header.set, Multimap.getAll_set] at alike
      cases alike
  · intro none one other oneToken otherToken same
    have lists := congrArg String.toList same
    rw [toList_key, toList_key] at lists
    simp only [parts, none, List.map_cons, List.map_nil, List.intercalate_cons_cons, List.intercalate_singleton,
      List.append_assoc, List.singleton_append] at lists
    have counts : one.method.toList.count ':' = other.method.toList.count ':' := by
      rw [List.count_eq_zero.mpr oneToken, List.count_eq_zero.mpr otherToken]
    obtain ⟨method, url⟩ := split_eq_of_count lists counts
    refine ⟨String.toList_injective method, String.toList_injective url, ?_⟩
    intro name member
    simp [none] at member

end Junction.Cache
