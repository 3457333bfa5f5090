import Junction.Config.Caching
import Junction.Exchange.Request

/-!
The keys under which responses are kept.
-/

namespace Junction.Cache

/-- The key of a request: method and URL, then the values of every header that tells responses apart. A header
without values counts as an empty part. -/
def key (request : Request) (caching : Config.Caching) : String :=
  caching.strategyHeaders.foldl
    (fun key name => key ++ ":" ++ ",".intercalate (request.header.getAll name))
    (request.method ++ ":" ++ request.url)

end Junction.Cache
