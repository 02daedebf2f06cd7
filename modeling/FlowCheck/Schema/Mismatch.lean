import FlowCheck.Instant
import FlowCheck.Value.Basic

/-!
# Mismatches

A `Mismatch` is the reason why a tree does not have the type that a schema asks for.  It keeps the offending part of
the document; `message` puts it into words.
-/

namespace FlowCheck

/-- Why a tree does not conform to a schema. -/
inductive Mismatch where
  | missingField (name : String)
  | unknownVariant (found : String) (names : List String)
  | wrongType (found : Value) (expected : String)
  | wrongValue (found : Value) (expected : String)
  | wrongLength (length : Nat) (expected : String)
  | badDate (fault : Instant.Fault)
  deriving DecidableEq

namespace Mismatch

/-- A choice of names in words. -/
def alternatives : List String → String
  | [] => "there are no variants"
  | [a] => s!"expected `{a}`"
  | [a, b] => s!"expected `{a}` or `{b}`"
  | names => "expected one of " ++ ", ".intercalate (names.map fun name => s!"`{name}`")

def message : Mismatch → String
  | .missingField name => s!"missing field `{name}`"
  | .unknownVariant found names => s!"unknown variant `{found}`, " ++ alternatives names
  | .wrongType found expected => "invalid type: " ++ found.shown .json ++ ", expected " ++ expected
  | .wrongValue found expected => "invalid value: " ++ found.shown .json ++ ", expected " ++ expected
  | .wrongLength length expected => s!"invalid length {length}, expected " ++ expected
  | .badDate fault => fault.message

end Mismatch

end FlowCheck
