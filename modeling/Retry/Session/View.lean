import Retry.Builder.Call
import Retry.Strategy

/-!
# Views

What a session shows of an object.
-/

namespace Retry

/-- What is shown of an object. -/
inductive View where
  /-- A builder: what it collected so far, under an absent classifier where none is set,
  and its markers in order. -/
  | builder (label : TypeLabel) (plan : Plan) (markers : List Value)
  /-- A strategy, with the tag it goes by. -/
  | strategy (label : TypeLabel) (kind : Value) (plan : Plan) (markers : List Value)
  | policy (policy : Policy)
  /-- An object in the guise of a strategy. -/
  | adapter (maxAttempts : Value) (adapted : View)
  /-- A recorder: its entries, behind the items of a list that was put in the place of
  its record. -/
  | record (label : TypeLabel) (items : List Value) (entries : List Entry)
  /-- A recorder with a value in the place of its record. -/
  | spoiltRecord (label : TypeLabel) (value : Value)

end Retry
