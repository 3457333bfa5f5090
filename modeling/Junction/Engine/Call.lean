import Junction.Exchange.Response

/-!
Calls to backends and what comes of them.
-/

namespace Junction

/-- A call to a backend. -/
structure Call where
  method : String
  url : String
  header : Header
  body : Option Body
deriving Inhabited

/-- The call that a snapshot stands for. -/
def Snapshot.call (snapshot : Snapshot) : Call :=
  ⟨snapshot.method, snapshot.url, snapshot.header, snapshot.body⟩

/-- What a backend replies. -/
structure Reply where
  status : Nat
  header : Header
  bytes : ByteArray
deriving Inhabited

/-- The body of bytes that came with a header; no bytes are no body. -/
def Header.bodyOf (header : Header) (bytes : ByteArray) : Option Body :=
  if bytes.isEmpty then none else some (.ofMediaType ((header.get? Header.contentType).getD "") bytes)

/-- A reply as an entry of its backend, without the fields that transport decides. -/
def Reply.entry (reply : Reply) (backend : Config.Backend) : Entry :=
  { backend := backend
    status := reply.status
    header := reply.header.withoutTransport
    body := reply.header.bodyOf reply.bytes }

/-- Why a call brings no reply. -/
inductive CallError where
  /-- There is no connection, in the words of the transport. -/
  | connection (message : String)
  | timeout
  /-- The request cannot be sent, or its reply cannot be read, in the words of the transport. -/
  | request (message : String)
  /-- The transport broke down. -/
  | breakdown
deriving DecidableEq, Repr, Inhabited

/-- The failure that a call without a reply ends in. -/
def CallError.failure : CallError → Failure
  | connection message => .stated .badGateway message
  | timeout => .callTimedOut
  | request message => .stated .internal message
  | breakdown => .brokeDown

/-- What comes of a call, which may depend on the calls before it. -/
abbrev Transport := (earlier : List Call) → Call → Except CallError Reply

end Junction
