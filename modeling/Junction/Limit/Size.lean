import Junction.Config.Limits
import Junction.Exchange.Failure
import Junction.Message.Header

/-!
Limits on the size of a request.
-/

namespace Junction.Limit

/-- Whether the fields of a header are small enough. -/
def checkHeader (limits : Config.Limits) (header : Header) : Except Failure Unit :=
  if limits.maxHeaderSize < header.byteSize then .error (.headerTooLarge header.byteSize limits.maxHeaderSize)
  else .ok ()

/-- Whether a body of so many bytes is small enough. -/
def checkBody (limits : Config.Limits) (size : Nat) : Except Failure Unit :=
  if limits.maxBodySize < size then .error (.bodyTooLarge size limits.maxBodySize) else .ok ()

/-- The size that a header declares, if it reads as a number. -/
def declaredSize? (header : Header) : Option Nat :=
  (header.get? Header.contentLength).bind fun value => Text.word? (Text.trimmed value.toList)

/-- The bytes of a body, unless the declared size or the bytes themselves are too many. -/
def readBody (limits : Config.Limits) (header : Header) (bytes : ByteArray) : Except Failure ByteArray :=
  (match declaredSize? header with
    | some size => checkBody limits size
    | none => .ok ()).bind fun _ =>
    if limits.maxBodySize < bytes.size then .error .bodyOverflow else .ok bytes

end Junction.Limit
