set_option autoImplicit false

namespace Gatekeeper

inductive Error where
  | duplicateSchemePolicy (subject object : String)
  | invalidUri (detail : String)
  | invariantViolation (detail : String)
  | deadObject
  | delivery (detail : String)
  | invalidInput (detail : String)
  | internal (detail : String)
  deriving DecidableEq, Repr, Inhabited

def Error.message : Error → String
  | .duplicateSchemePolicy subject object =>
    s!"A scheme policy is already registered for `{subject}` -> `{object}`"
  | .invalidUri detail => s!"Invalid access URI: {detail}"
  | .invariantViolation detail => s!"Access state invariant violated: {detail}"
  | .deadObject => "Listener is dead"
  | .delivery detail => s!"Delivery error: {detail}"
  | .invalidInput detail => s!"Invalid input: {detail}"
  | .internal detail => s!"Internal error: {detail}"

end Gatekeeper
