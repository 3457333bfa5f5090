import Junction.Message.Body

/-!
Failures of the gateway itself, and the body that tells a client about one. A backend that answers with an
error status is no failure.
-/

namespace Junction

/-- The classes of failures. -/
inductive Failure.Kind where
  | badGateway
  | gatewayTimeout
  | internal
  | respondedNothing
  | payloadTooLarge
  | tooManyRequests
  | notFound
  | methodNotAllowed
deriving DecidableEq, Repr, Inhabited

namespace Failure.Kind

/-- Every class with its name. -/
def names : List (String × Kind) :=
  [("BAD_GATEWAY", badGateway), ("GATEWAY_TIMEOUT", gatewayTimeout), ("INTERNAL", internal),
    ("ENDPOINT_RESPONDED_NOTHING", respondedNothing), ("PAYLOAD_TOO_LARGE", payloadTooLarge),
    ("TOO_MANY_REQUESTS", tooManyRequests), ("NOT_FOUND", notFound), ("METHOD_NOT_ALLOWED", methodNotAllowed)]

/-- The class of a name. -/
def ofName? (name : String) : Option Kind := (names.find? fun entry => entry.1 == name).map (·.2)

/-- The name of a class. -/
def name : Kind → String
  | badGateway => "BAD_GATEWAY"
  | gatewayTimeout => "GATEWAY_TIMEOUT"
  | internal => "INTERNAL"
  | respondedNothing => "ENDPOINT_RESPONDED_NOTHING"
  | payloadTooLarge => "PAYLOAD_TOO_LARGE"
  | tooManyRequests => "TOO_MANY_REQUESTS"
  | notFound => "NOT_FOUND"
  | methodNotAllowed => "METHOD_NOT_ALLOWED"

/-- The status that a class of failures is answered with. -/
def status : Kind → Nat
  | badGateway => 502
  | gatewayTimeout => 504
  | internal => 500
  | respondedNothing => 500
  | payloadTooLarge => 413
  | tooManyRequests => 429
  | notFound => 404
  | methodNotAllowed => 405

end Failure.Kind

/-- Why the gateway itself answers. -/
inductive Failure where
  /-- A failure in the words of who reports it. -/
  | stated (kind : Failure.Kind) (message : String)
  | callTimedOut
  /-- A change that failed under a policy that does not go on. -/
  | change (cause : BodyError)
  | noHost (backend : String)
  /-- Every response is left out of the final one. -/
  | respondedNothing
  /-- The run took longer than its endpoint allows. -/
  | timedOut
  /-- The run broke down. -/
  | brokeDown
  | headerTooLarge (size limit : Nat)
  | bodyTooLarge (size limit : Nat)
  /-- The body grew beyond its limit while it was read. -/
  | bodyOverflow
  | tooManyRequests
  | notFound (path : String)
  | methodNotAllowed (method path : String)
deriving Inhabited

namespace Failure

/-- The class of a failure. -/
def kind : Failure → Kind
  | stated kind _ => kind
  | callTimedOut => .gatewayTimeout
  | change _ => .internal
  | noHost _ => .internal
  | respondedNothing => .respondedNothing
  | timedOut => .gatewayTimeout
  | brokeDown => .internal
  | headerTooLarge _ _ => .payloadTooLarge
  | bodyTooLarge _ _ => .payloadTooLarge
  | bodyOverflow => .payloadTooLarge
  | tooManyRequests => .tooManyRequests
  | notFound _ => .notFound
  | methodNotAllowed _ _ => .methodNotAllowed

/-- The wording of a size beyond its limit. -/
def excess (what : String) (size limit : Nat) : String :=
  what ++ " too large: " ++ toString size ++ " bytes exceeds the limit of " ++ toString limit ++ " bytes"

/-- The wording of a failure. -/
def message : Failure → String
  | stated _ message => message
  | callTimedOut => "backend call timed out"
  | change cause => cause.message
  | noHost backend => "backend " ++ backend ++ " has no host"
  | respondedNothing => "endpoint responded nothing, check the omit settings of its backends"
  | timedOut => "gateway timeout"
  | brokeDown => "request pipeline panicked"
  | headerTooLarge size limit => excess "header" size limit
  | bodyTooLarge size limit => excess "payload" size limit
  | bodyOverflow => "length limit exceeded"
  | tooManyRequests => "too many requests, try again later"
  | notFound path => "no endpoint matches " ++ path
  | methodNotAllowed method path => "method " ++ method ++ " not allowed on " ++ path

/-- What an error body tells about its making: the file and the line that raise it, and the time. -/
structure Stamp where
  file : String
  line : Nat
  time : String
deriving DecidableEq, Repr, Inhabited

/-- The body that tells a client of a failure at an endpoint. -/
def body (failure : Failure) (stamp : Stamp) (endpoint : String) : Body :=
  .ofJson (.object [("file", .text stamp.file), ("line", Json.ofNat stamp.line), ("endpoint", .text endpoint),
    ("message", .text failure.message), ("timestamp", .text stamp.time)])

end Failure
end Junction
