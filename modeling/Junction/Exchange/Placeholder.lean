import Junction.Exchange.Response

/-!
Placeholders in the values of modifiers: `#request.` or `#response.` and a path into the view of the request
or the response. A placeholder without a value stays as it is.
-/

namespace Junction.Placeholder

/-- A character that a placeholder goes on with. -/
def isWord (c : Char) : Bool :=
  c.isAlphanum || c == '_' || c == '.' || c == '-' || c == '[' || c == ']'

/-- The words of a template from left to right: a hash and all that a placeholder can go on with. `skip`
characters belong to the last word. -/
def wordsFrom : (skip : Nat) → List Char → List (List Char)
  | _, [] => []
  | skip + 1, _ :: rest => wordsFrom skip rest
  | 0, c :: rest =>
    let tail := rest.takeWhile isWord
    if c = '#' ∧ !tail.isEmpty then (c :: tail) :: wordsFrom tail.length rest else wordsFrom 0 rest

/-- The words of a template. -/
def words (template : String) : List (List Char) := wordsFrom 0 template.toList

/-- The value at a path of a view, as text. -/
def valueAt? (view : Json) (path : List Char) : Option String :=
  (view.get? (.ofText (String.ofList path))).map (·.plainText)

/-- The value of a word. -/
def value? (request : Request) (response : Response) (word : List Char) : Option String :=
  match Text.after? "#request.".toList word with
  | some path => valueAt? request.view path
  | none => (Text.after? "#response.".toList word).bind (valueAt? response.view)

/-- One word replaced where it first occurs, if it has a value. -/
def fillWord (request : Request) (response : Response) (text word : List Char) : List Char :=
  match value? request response word with
  | some value => Text.replaceFirst word value.toList text
  | none => text

/-- A template with the values of its placeholders, word by word. -/
def resolve (template : String) (request : Request) (response : Response) : String :=
  String.ofList ((words template).foldl (fillWord request response) template.toList)

end Junction.Placeholder
