import SpokenFeedback.Dispatch
import SpokenFeedback.Json.Reader

/-!
# Stored settings

Settings are an object whose members may be missing but not repeated or unknown, or a list of up
to three values in order.  What is missing has its standard value.
-/

namespace SpokenFeedback

namespace Settings

/-- The names of the settings. -/
def names : List String := ["pool_capacity", "trace_matches", "fallback_to_package_scope"]

/-- The settings with one of them changed. -/
def set? (settings : Settings) (name : String) (value : Json) : Option Settings :=
  match name with
  | "pool_capacity" => value.count?.map fun count => { settings with poolCapacity := count }
  | "trace_matches" => value.bool?.map fun truth => { settings with traceMatches := truth }
  | "fallback_to_package_scope" =>
    value.bool?.map fun truth => { settings with fallbackToPackageScope := truth }
  | _ => none

/-- The settings with several of them changed. -/
def setAll? (settings : Settings) : List (String × Json) → Option Settings
  | [] => some settings
  | (name, value) :: members =>
    (settings.set? name value).bind fun changed => changed.setAll? members

/-- The settings of a tree. -/
def ofJson? : Json → Option Settings
  | .object members =>
    if (members.map Prod.fst).Nodup then standard.setAll? members else none
  | .list values =>
    if values.length ≤ names.length then standard.setAll? (names.zip values) else none
  | _ => none

/-- Reads settings from a JSON text. -/
def read (text : String) : Except ValidationFault Settings :=
  match (Json.read? text).bind ofJson? with
  | some settings => .ok settings
  | none => .error (.invalidConfiguration "the text does not describe settings")

end Settings

end SpokenFeedback
