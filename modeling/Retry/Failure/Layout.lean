import Retry.Failure.Known

/-!
# Layouts

How failures of a class come about before they are filled in: what creates them, and
what they have room for besides the values under reserved names.
-/

namespace Retry

/-- What creates failures: each creator serves the classes that are shaped after its
own. -/
inductive Creator where
  /-- What creates things that are no failures. -/
  | bare
  | general
  | system
  | memory
  deriving DecidableEq

/-- The layout of a class's failures. -/
structure Layout where
  /-- Whether there is room for values under every name. -/
  takesAttributes : Bool
  /-- Whether there is room for references to a failure. -/
  takesReferences : Bool
  /-- The creator of the nearest known class that the class is shaped after. -/
  creator : Creator
  /-- Whether creation is left to what the lineage of the class says. -/
  defersCreation : Bool

namespace Layout

/-- The layout of a class that extends none. -/
def bare : Layout where
  takesAttributes := false
  takesReferences := false
  creator := .bare
  defersCreation := false

end Layout

namespace KnownClass

/-- Whether a class says how the failures of the classes that extend it are created, and
does not leave this to a class that it extends itself. -/
def creates : KnownClass → Bool
  | baseException | exception | keyboardInterrupt | generatorExit | arithmeticError
  | overflowError | zeroDivisionError | lookupError | indexError | valueError
  | unicodeError | typeError | runtimeError | recursionError | notImplementedError
  | assertionError | eofError | memoryError | bufferError | osError => true
  | _ => false

end KnownClass
end Retry
