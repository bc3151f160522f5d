import Abacus.Search.Item
import Abacus.Text.Space

/-!
# Routing a query

Handlers are kept in order of priority, lowest first, and handlers of equal priority in the
order they were registered. A query goes to the first handler that accepts it, which answers
it even with no items; a blank query, or one that no handler accepts, gets no answer. A
handler may fail to answer, with an error of a type the router passes on unchanged.
-/

namespace Abacus

namespace Search

/-- A search handler: its name, its priority, which queries it accepts and its answer, or an
error of type `ε`. -/
structure Handler (ε : Type) where
  name : String
  priority : Int
  accepts : String → Bool
  results : String → Except ε (List Item)

def noHandler : String := "none"

/-- Handlers in the order they are asked. -/
structure Router (ε : Type) where
  handlers : List (Handler ε)

namespace Router

variable {ε : Type}

def empty : Router ε := ⟨[]⟩

/-- The router with one more handler, after those of lower or equal priority. -/
def register (r : Router ε) (h : Handler ε) : Router ε :=
  ⟨(r.handlers ++ [h]).mergeSort fun a b => decide (a.priority ≤ b.priority)⟩

/-- The name of the handler that answers a query, and its answer. -/
def route (r : Router ε) (q : String) : Except ε (String × List Item) :=
  if q.toList.all Text.isSpace then .ok (noHandler, [])
  else
    match r.handlers.find? fun h => h.accepts q with
    | some h =>
      match h.results q with
      | .ok items => .ok (h.name, items)
      | .error f => .error f
    | none => .ok (noHandler, [])

end Router

end Search

end Abacus
