import Junction.Engine.Call
import Junction.Http.Field

/-!
What must hold of a call before it can be sent.
-/

namespace Junction.Http

/-- The part of a URL between its scheme and its path, without a user. -/
def located (rest : List Char) : List Char :=
  let authority := rest.takeWhile fun c => c != '/' && c != '?' && c != '#' && c != '\\'
  (authority.reverse.takeWhile (· != '@')).reverse

/-- What follows the host is nothing, or a colon and the number of a socket. -/
def isSocket (text : List Char) : Bool :=
  match text with
  | [] => true
  | ':' :: digits => digits.isEmpty || ((Text.digitsValue? digits).any (· ≤ 65535))
  | _ => false

/-- A character that no host holds. -/
def isForbidden (c : Char) : Bool := c.toNat ≤ 0x20 || "<>^|%".toList.contains c

/-- A URL of a scheme that calls can be sent by, with a host. -/
def isCallable (url : String) : Bool :=
  let s := Text.trimmed url.toList
  let scheme := String.ofList (s.takeWhile (· != ':'))
  let place := located ((s.drop (scheme.length + 1)).dropWhile fun c => c == '/' || c == '\\')
  let host := place.takeWhile (· != ':')
  (Text.sameIgnoringCase scheme "http" || Text.sameIgnoringCase scheme "https") &&
    !host.isEmpty && !host.any isForbidden && isSocket (place.drop host.length)

/-- The fields of a call, that of its body included. -/
def callFields (call : Call) : List (String × String) :=
  call.header.fields.pairs ++ (call.body.map fun body => (Header.contentType, body.mediaType)).toList

/-- The reason why a call cannot be sent, if there is one. -/
def refusal? (call : Call) : Option CallError :=
  if !isToken call.method then some (.request "invalid HTTP method")
  else if !isCallable call.url then some (.request "invalid URL")
  else if (callFields call).all fun (name, value) => isToken name && isValue value then none
  else some (.request "invalid header")

/-- A transport that finds no listener for any call. -/
def unconnected : Transport := fun _ call =>
  .error ((refusal? call).getD (.connection ("connection refused: " ++ call.url)))

end Junction.Http
