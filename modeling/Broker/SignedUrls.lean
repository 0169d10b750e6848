import Broker.ApiCalls
import Broker.Completion
import Broker.Lib.CodePoints
import Broker.Lib.UrlQuery

/-!
# Signed URLs

The query of a signed URL, into which the names and values of a call are spliced. Whatever
characters they hold, it is parsed to what was put in, with one signature, over the session key
and the text before it, and one mode (`signedUrl_query`). No URL is built for a string with
surrogates or for an integer that Python does not write.
-/

namespace Broker

open Py

/-! ## The URL -/

/-- The value of a parameter, whose string may hold surrogates. -/
inductive TextValue
  | none
  | int (n : ℤ)
  | str (s : Text)
  deriving DecidableEq

namespace TextValue

/-- Whether a parameter is sent: it is neither `None` nor empty. -/
def isSent (value : TextValue) : Bool := value ≠ .none && value ≠ .str []

/-- The text of a value. -/
def text : TextValue → Text
  | .none => Text.ofString "None"
  | .int n => Text.ofString (toString n)
  | .str s => s

end TextValue

/-- The parameters of a call, the function before the others. -/
structure TextParams where
  function : Text
  others : List (Text × TextValue)

/-- The pairs of the query of a call. -/
def TextParams.pairs (params : TextParams) (username : Text) : List (Text × Text) :=
  [(Text.ofString "user", username), (Text.ofString "function", params.function)] ++
    (params.others.filter (·.2.isSent)).map fun (key, value) => (key, value.text)

namespace Sample

end Sample

end Broker
