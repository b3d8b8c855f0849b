import SpokenFeedback.Collections.SortedMap
import SpokenFeedback.Lineage.TypeTable
import SpokenFeedback.Reference
import SpokenFeedback.Value

/-!
# Surroundings

What rules can ask of the system around them: which types there are, which capabilities the
device has and which texts the resources hold.  A context adds the values that the caller gives
for one event.
-/

namespace SpokenFeedback

/-- The services of the surrounding system. -/
structure Surroundings where
  types : TypeResolver
  hasCapability : String → Bool
  resource? : String → Option String

namespace Surroundings

/-- Surroundings without types, capabilities and resources. -/
def empty : Surroundings := ⟨fun _ _ => none, fun _ => false, fun _ => none⟩

instance : Inhabited Surroundings := ⟨empty⟩

/-- The text behind a reference; a text that is no known reference stands for itself. -/
def localize (surroundings : Surroundings) (text : String) : String :=
  if isReference text then (surroundings.resource? text).getD text else text

end Surroundings

/-- Named values in ascending order of their names. -/
abbrev Metadata := SortedMap String Value

/-- What a rule sees besides the event. -/
structure Context where
  surroundings : Surroundings
  values : Metadata

namespace Context

/-- The value that the caller gave under a key. -/
def value? (context : Context) (key : String) : Option Value := context.values.get? key

end Context

end SpokenFeedback
