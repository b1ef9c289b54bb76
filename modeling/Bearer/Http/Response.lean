import Bearer.Http.Headers
import Bearer.Http.Status
import Bearer.Text.Blank

/-!
# Responses

What comes back for a request: a status, header fields and a body. A response says by its content
type whether it is JSON; the media type is what stands before the first semicolon, in any case and
with blanks round it.
-/
namespace Bearer.Http

/-- A response. -/
structure Response where
  /-- The status. -/
  status : Int
  /-- The header fields. -/
  headers : Headers
  /-- The body. -/
  body : List UInt8
deriving DecidableEq, Inhabited

namespace Response

/-- The content type. -/
def contentType? (r : Response) : Option String :=
  r.headers.value? "content-type"

/-- The media type that a content type names. -/
def mediaType (contentType : String) : String :=
  Text.lower (String.ofList (Text.trim (contentType.toList.takeWhile (· != ';'))))

/-- Whether a content type says that a body is JSON. -/
def isJson (contentType : String) : Bool :=
  mediaType contentType = "application/json"

end Response

end Bearer.Http
