/-!
# Search results

A handler answers a query with result items: a title, a description, an icon and a kind.
Activating an item may copy a text, which the item records.
-/

namespace Abacus

namespace Search

/-- One result of a search. -/
structure Item where
  title : String
  description : String
  icon : String
  kind : String
  copyText : Option String
  deriving DecidableEq, Inhabited

end Search

end Abacus
