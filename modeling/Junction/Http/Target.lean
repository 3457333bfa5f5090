import Junction.Text.Cut

/-!
The target of an HTTP request: a path with a query, a whole URL, an authority, or a star. The fragment is left
out.
-/

namespace Junction.Http

/-- A target: path and query as they are written, and each by itself. -/
structure Target where
  url : String
  path : String
  query : String
deriving DecidableEq, Repr, Inhabited

namespace Target

/-- A character that may stand in the path of a target. -/
def isPathChar (c : Char) : Bool :=
  '\x21' ≤ c && !"#<>?\x60".toList.contains c

/-- A character that may stand in the query of a target. -/
def isQueryChar (c : Char) : Bool := '\x21' ≤ c && !"\x22#<>".toList.contains c

/-- The target of a path and a query. -/
def ofPathAndQuery? (s : List Char) : Option Target :=
  let path := s.takeWhile fun c => c != '?' && c != '#'
  let tail := (s.drop path.length).takeWhile (· != '#')
  if path.all isPathChar && (tail.drop 1).all isQueryChar then
    let shown := String.ofList path
    some { url := if path.isEmpty && tail.isEmpty then "/" else shown ++ String.ofList tail
           path := if path.isEmpty then "/" else shown
           query := String.ofList (tail.drop 1) }
  else none

/-! ## Authorities -/

/-- What a scan of an authority has seen: the colons since the last at-sign or closing bracket, the brackets,
and a percent sign that no user name or address accounts for. -/
structure Seen where
  colons : Nat := 0
  opened : Bool := false
  closed : Bool := false
  percent : Bool := false
  endsAt : Bool := false
deriving DecidableEq, Repr, Inhabited

/-- A character that may stand in an authority. -/
def isAuthorityChar (c : Char) : Bool := c.isAlphanum || "!$&'()*+,-.:;=@[]_~%".toList.contains c

/-- What has been seen after one more character. -/
def see (seen : Seen) (c : Char) : Option Seen :=
  let seen := { seen with endsAt := c == '@' }
  if !isAuthorityChar c then none
  else if c = ':' then if seen.colons ≥ 8 then none else some { seen with colons := seen.colons + 1 }
  else if c = '[' then if seen.percent || seen.opened then none else some { seen with opened := true }
  else if c = ']' then
    if !seen.opened || seen.closed then none
    else some { seen with closed := true, colons := 0, percent := false }
  else if c = '@' then some { seen with colons := 0, percent := false }
  else if c = '%' then some { seen with percent := true }
  else some seen

/-- An authority: perhaps a user, a host, and at most one number after it. -/
def isAuthority (s : List Char) : Bool :=
  match s.foldlM see {} with
  | some seen => seen.opened == seen.closed && seen.colons ≤ 1 && !seen.endsAt && !seen.percent
  | none => false

/-! ## Targets -/

/-- A character of a scheme. -/
def isSchemeChar (c : Char) : Bool := c.isAlphanum || c == '+' || c == '-' || c == '.'

/-- What follows the scheme and its two slashes, if there is a scheme. -/
def afterScheme? (s : List Char) : Option (List Char) :=
  Text.after? "://".toList (s.dropWhile isSchemeChar)

/-- The target of a whole URL or of an authority. -/
def ofAbsolute? (s : List Char) : Option Target :=
  match afterScheme? s with
  | none => if isAuthority s then some ⟨"", "", ""⟩ else none
  | some rest =>
    let authority := rest.takeWhile fun c => c != '/' && c != '?' && c != '#'
    if (s.takeWhile isSchemeChar).length ≤ 64 && !authority.isEmpty && isAuthority authority then
      ofPathAndQuery? (rest.drop authority.length)
    else none

/-- The greatest number of bytes of a target. -/
def maxSize : Nat := 65534

/-- The target that a text stands for. -/
def ofText? (text : String) : Option Target :=
  if maxSize < text.utf8ByteSize then none
  else match text.toList with
    | [] => none
    | ['*'] => some ⟨"*", "*", ""⟩
    | '/' :: rest => ofPathAndQuery? ('/' :: rest)
    | other => ofAbsolute? other

end Target
end Junction.Http
