import Retry.Value

/-!
# Members of failure classes

A class that a client defines can hold something of its own under the names by which
failures are asked, made and looked at: an operation that gives one value, a plain
value, or room for a value that each failure keeps by itself.  What stands in the place of
an answer to a question can also be an operation that a client wrote, which looks at the
failure.
-/

namespace Retry

/-- The questions that failures of the taxonomy are asked. -/
inductive Question where
  | retryable
  | throttling
  | clockSkew
  deriving DecidableEq

/-- What a failure can carry besides its arguments. -/
inductive Part where
  | message
  | details
  | retryable
  | statusCode
  | errorCode
  | requestId
  | reason
  deriving DecidableEq

/-- What can be done with failures, and what they can be looked at for. -/
inductive Feature where
  | question (question : Question)
  | part (part : Part)
  /-- The text of a failure. -/
  | wording
  /-- The creation of a failure, before it is filled in. -/
  | creation
  /-- The filling in of a failure with what it is made of. -/
  | filling
  /-- The keeping of a part. -/
  | keeping
  /-- The look at anything that a failure has. -/
  | access
  /-- What is looked at in place of what a failure does not have. -/
  | fallback
  | cause
  /-- The class that a failure says it is of. -/
  | claimedClass
  /-- What happens when another class extends the class. -/
  | extension
  deriving DecidableEq

namespace Question

/-- The name of a question. -/
def name : Question → String
  | retryable => "retryable"
  | throttling => "is_throttling_exception"
  | clockSkew => "is_clock_skew_exception"

end Question

namespace Part

/-- The name of a part. -/
def name : Part → String
  | message => "message"
  | details => "details"
  | retryable => "_retryable"
  | statusCode => "status_code"
  | errorCode => "error_code"
  | requestId => "request_id"
  | reason => "reason"

end Part

namespace Feature

/-- The name under which a class holds something of its own. -/
def name : Feature → String
  | question q => q.name
  | part p => p.name
  | wording => "__str__"
  | creation => "__new__"
  | filling => "__init__"
  | keeping => "__setattr__"
  | access => "__getattribute__"
  | fallback => "__getattr__"
  | cause => "__cause__"
  | claimedClass => "__class__"
  | extension => "__init_subclass__"

end Feature

/-- What a class holds under a name. -/
inductive Member where
  /-- An operation that gives a value when it is asked for without more ado. -/
  | constant (value : Value)
  /-- A value, which cannot be asked. -/
  | plain (value : Value)
  /-- Room for a value that each failure keeps by itself. -/
  | reserved

/-- What stands in the place of the taxonomy's own answer to a question. -/
inductive Override where
  /-- Something that is held under the name of the question. -/
  | held (member : Member)
  /-- An operation that a client wrote, by its name: it looks at the failure that is asked,
  and can fail. -/
  | written (operation : String)

/-- Why something that a failure is asked or looked at for is not there. -/
inductive Refusal where
  /-- The failure does not have it. -/
  | missing
  /-- What stands in its place is of no use for it. -/
  | unusable
  deriving DecidableEq

namespace Member

/-- What comes of using a member for something that its operation cannot do: a member
that only makes room is missing, and any other of no use. -/
def refusal : Member → Refusal
  | reserved => .missing
  | constant _ | plain _ => .unusable

/-- What an operation without more ado gives. -/
def ask : Member → Except Refusal Value
  | constant value => .ok value
  | member => .error member.refusal

/-- What is seen of a member that is looked at but not asked. -/
def seen? : Member → Option Value
  | constant _ => some (.foreign "method")
  | plain value => some value
  | reserved => none

end Member
end Retry
