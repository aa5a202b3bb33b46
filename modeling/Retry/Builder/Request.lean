import Retry.Builder.Operation

/-!
# Requests

A builder is asked for one operation after another, each in the environment of its time.
A request that fails does not stop the others, and what it did before it failed stays
done.
-/

namespace Retry

/-- An operation that is asked for in an environment. -/
structure Request where
  environment : Environment
  operation : Operation

namespace Builder

/-- What a request does to a builder. -/
def handle
    (builder : Builder)
    (request : Request) : Step Builder :=
  builder.perform request.environment request.operation

/-- A builder after requests in order. -/
def after
    (builder : Builder)
    (requests : List Request) : Builder :=
  requests.foldl (fun builder request => (builder.handle request).builder) builder

@[simp] theorem after_nil
    (builder : Builder) :
    builder.after [] = builder := rfl

@[simp] theorem after_cons
    (builder : Builder)
    (request : Request)
    (rest : List Request) :
    builder.after (request :: rest) = (builder.handle request).builder.after rest := rfl

theorem after_append
    (builder : Builder)
    (first second : List Request) :
    builder.after (first ++ second) = (builder.after first).after second :=
  List.foldl_append ..

end Builder
end Retry
