import Retry.Sorting.Sorted
import Retry.Value.Order

/-!
# Sorted values

Names are shown in order.  A collection can be sorted only if every two items that
meet have an order.
-/

namespace Retry
namespace Value

/-- The items of a list in order, if they have one. -/
def sorted? (items : List Value) : Option (List Value) :=
  Sorting.sorted? (ordered? .below) items

end Value
end Retry
