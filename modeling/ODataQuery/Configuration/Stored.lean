import ODataQuery.Configuration.Basic
import ODataQuery.Json.Reader
import ODataQuery.Json.Writer

/-!
# Stored configurations

A configuration is stored as JSON text in a file of its directory.

* `Configuration.read`: the configuration of a text.  The version is looked at first, so that a text
  of another version is reported as such, whatever else it holds.
* `Configuration.write`: the text of a configuration.
* `Configuration.pathIn`: the path of the file in a directory.
-/

set_option autoImplicit false

namespace ODataQuery

/-- Why the file of a configuration holds none.  Each error names the path of the file. -/
inductive ConfigurationError where
  /-- The text is not JSON, or not the JSON form of a configuration. -/
  | malformed (path : String)
  | missingVersion (path : String)
  /-- The version is given, but is another one. -/
  | unsupportedVersion (path : String) (version : Json)
  /-- The file cannot be read, for a reason in words. -/
  | unreadable (path reason : String)

/-- The text of the error. -/
def ConfigurationError.message : ConfigurationError → String
  | malformed path => s!"parse error on {path}"
  | missingVersion path =>
    s!"did not find expected version tag in {path}: missing field `version`"
  | unsupportedVersion path version =>
    s!"unsupported configuration version {version.canonical.compact} in {path}"
  | unreadable path reason => s!"I/O error: {path}: {reason}"

namespace Configuration

/-- The name of the file that holds a configuration. -/
def fileName : String := "configuration.json"

/-- The path of a file in a directory. -/
def pathIn (directory name : String) : String :=
  if directory.isEmpty || directory.endsWith "/" then directory ++ name
  else directory ++ "/" ++ name

/-- The configuration of the text of a file. -/
def read (path text : String) : Except ConfigurationError Configuration :=
  match Json.parse? text with
  | none => .error (.malformed path)
  | some json =>
    match json.field? "version" with
    | none => .error (.missingVersion path)
    | some (.string found) =>
      if found = version then
        match ofJson? json with
        | some configuration => .ok configuration
        | none => .error (.malformed path)
      else .error (.unsupportedVersion path (.string found))
    | some other => .error (.unsupportedVersion path other)

/-- The text of the file of a configuration. -/
def write (configuration : Configuration) : String :=
  configuration.toJson.pretty ++ "\n"

end Configuration
end ODataQuery
