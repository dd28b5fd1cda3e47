import Acquisition.Settings.Variable
import Acquisition.Stored.Settings
import Acquisition.Toml.Parser

/-!
# Loading settings

Settings are what is configured over what holds by default: the file over the defaults, the
environment over the file.  Tables are laid over one another key by key, anything else as a whole.

## Main definitions

* `Json.overlay`: one value over another.
* `Settings.load?`: the settings of a file and an environment.
-/

namespace Acquisition

/-- Puts a field into its place, in the place of one that stands there. -/
def Json.setField (name : String) (value : Json) : List (String × Json) → List (String × Json)
  | [] => [(name, value)]
  | (other, first) :: rest =>
    if other == name then (name, value) :: rest else (other, first) :: setField name value rest

mutual

/-- One value laid over another. -/
def Json.overlay (lower : Json) : Json → Json
  | .obj upper =>
    match lower with
    | .obj fields => .obj (overlayFields fields upper)
    | _ => .obj upper
  | upper => upper

/-- Fields laid over fields. -/
def Json.overlayFields (fields : List (String × Json)) :
    List (String × Json) → List (String × Json)
  | [] => fields
  | (name, upper) :: rest =>
    let value :=
      match fields.find? (·.1 == name) with
      | some (_, lower) => overlay lower upper
      | none => upper
    overlayFields (setField name value fields) rest

end

/-- A value below the keys that lead to it. -/
def Json.nested (value : Json) (way : List String) : Json :=
  way.foldr (fun key value => .obj [(key, value)]) value

namespace Settings

/-- What the variables of an environment set; other variables set nothing, and of two that set the
same value the later one counts. -/
def ofVariables (environment : List (String × String)) : Json :=
  environment.foldl (fun value (name, text) =>
    match Variable.way? name with
    | some way => value.overlay ((Variable.readValue text).nested way)
    | none => value) (.obj [])

/-- The settings of a file, if there is one, and of an environment; nothing if the file cannot
be read, or if a value is not of its kind. -/
def load? (file : Option String) (environment : List (String × String)) : Option Settings := do
  let defaults : Json := Stored.encode ({} : Settings)
  let configured ←
    match file with
    | some text => (Toml.parse? text).map defaults.overlay
    | none => some defaults
  Stored.decode? (configured.overlay (ofVariables environment))

end Settings

end Acquisition
