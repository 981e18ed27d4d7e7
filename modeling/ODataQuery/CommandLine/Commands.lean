import ODataQuery.CommandLine.Invocation
import ODataQuery.Configuration.Catalog
import ODataQuery.Configuration.JsonSchema
import ODataQuery.Files.Access
import ODataQuery.Sql.Plan

/-!
# Commands

What the commands of the program print and store.

* `TranslateArguments.answer`: the SQL of a query over a table of a configuration.  Each statement
  stands below a comment that says what it selects, and is followed by a comment for each parameter.
* `SqlFormatter`: what lays a statement out over several lines, for a command that asks for it.  How
  that is done is up to the formatter, so a command is given one.
* `Invocation.run`: the answer of a command, given access to files and a formatter.
-/

set_option autoImplicit false

namespace ODataQuery
namespace CommandLine

/-- Why a command fails. -/
inductive CommandError where
  | configuration (error : ConfigurationError)
  | catalog (error : CatalogError)
  | unknownTable (table : String)
  | query (error : ParseError)
  | sql (table : String) (error : Sql.SqlError)
  /-- The directory holds a configuration already. -/
  | occupied (directory : String)
  | inaccessible (error : FileError)
  | unwritable (error : FileError)

/-- The text of the error. -/
def CommandError.message : CommandError → String
  | configuration error => error.message
  | catalog error => error.message
  | unknownTable table => s!"unknown table '{table}'"
  | query error => error.message
  | sql table error => s!"translating a query over table '{table}': " ++ error.message
  | occupied directory => s!"{directory} already holds a configuration"
  | inaccessible error => error.message
  | unwritable error => "I/O error: " ++ error.message ++ ": " ++ error.message

/-! ## Statements of a query -/

/-- What lays the text of a statement out. -/
abbrev SqlFormatter := String → String

/-- The line that shows a parameter. -/
def parameterLine (parameter : Sql.BoundValue) : String :=
  "-- " ++ parameter.name ++ " = " ++ Sql.BoundValue.describe parameter.value

/-- A statement below a comment and above its parameters; every line is ended. -/
def labelled (layOut : SqlFormatter) (label : String) (statement : Sql.Statement) : String :=
  let lines := ("-- " ++ label) :: layOut statement.text :: statement.parameters.map parameterLine
  String.join (lines.map (· ++ "\n"))

/-- The statement for the rows of a query, and the one for their number if the query asks for it. -/
def printed (layOut : SqlFormatter) (plan : Sql.Plan) : InlineCount → String
  | .none => labelled layOut "rows" (plan.statement .rows)
  | .allPages =>
    labelled layOut "rows" (plan.statement .rows) ++ "\n"
      ++ labelled layOut "count" (plan.statement .count)

namespace TranslateArguments

/-- How statements are laid out: by the formatter if the arguments ask for it, and else as they
are. -/
def layOut (format : SqlFormatter) (arguments : TranslateArguments) : SqlFormatter :=
  if arguments.pretty then format else id

/-- The SQL of the query over a table of a catalog. -/
def answerFrom (format : SqlFormatter) (arguments : TranslateArguments) (catalog : Catalog) :
    Except CommandError String :=
  match catalog.table? arguments.table with
  | none => .error (.unknownTable arguments.table)
  | some entry => do
    let query ← (arguments.query entry.schema).mapError .query
    let plan ← (entry.table.plan entry.baseSql query).mapError (.sql arguments.table)
    .ok (printed (arguments.layOut format) plan query.inlineCount)

/-- The SQL of the query over a table of the configuration that a file holds. -/
def answer (format : SqlFormatter) (arguments : TranslateArguments) (path : String)
    (file : Except FileError String) : Except CommandError String := do
  let text ← file.mapError fun error => .configuration (.unreadable path error.message)
  let configuration ← (Configuration.read path text).mapError .configuration
  let catalog ← configuration.catalog.mapError .catalog
  arguments.answerFrom format catalog

end TranslateArguments

/-! ## Commands with access to files -/

/-- The JSON schema of configurations as text. -/
def schemaText : String := Configuration.jsonSchema.pretty

variable {m : Type → Type} [Monad m]

/-- Write files into a directory, up to the first failure. -/
def writeFiles (access : FileAccess m) (directory : String) :
    List (String × String) → m (Except FileError Unit)
  | [] => pure (.ok ())
  | (name, text) :: rest => do
    match ← access.write (Configuration.pathIn directory name) text with
    | .ok () => writeFiles access directory rest
    | .error error => pure (.error error)

/-- Store a configuration in a directory, which is made if there is none. -/
def store (access : FileAccess m) (directory : String) (configuration : Configuration) :
    m (Except FileError Unit) := do
  match ← access.makeDirectory directory with
  | .ok () => writeFiles access directory configuration.files
  | .error error => pure (.error error)

/-- Store the initial configuration in a directory that holds none. -/
def storeInitial (access : FileAccess m) (directory : String) : m (Except CommandError String) := do
  match ← access.isPresent (Configuration.pathIn directory Configuration.fileName) with
  | .error error => pure (.error (.inaccessible error))
  | .ok true => pure (.error (.occupied directory))
  | .ok false =>
    match ← store access directory .initial with
    | .error error => pure (.error (.unwritable error))
    | .ok () => pure (.ok s!"Wrote an initial configuration to {directory}.")

/-- The answer of an invocation.  Without a formatter, statements stay as they are. -/
def Invocation.run (access : FileAccess m) (invocation : Invocation)
    (format : SqlFormatter := id) : m (Except CommandError String) := do
  match invocation.command with
  | .translate arguments =>
    let path := Configuration.pathIn invocation.directory Configuration.fileName
    let file ← access.read path
    pure (arguments.answer format path file)
  | .printSchema => pure (.ok schemaText)
  | .create directory => storeInitial access directory

end CommandLine
end ODataQuery
