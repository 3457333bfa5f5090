import Junction.Config.Loading

/-!
Reloading: each new content of a configuration file that loads is an update, any other leaves the
configuration as it is.
-/

namespace Junction.Config

/-- The update that a new content of a file brings, if any. -/
def update? (path : String) (content : Option ByteArray) : Option Gateway := (load path content).toOption

end Junction.Config
