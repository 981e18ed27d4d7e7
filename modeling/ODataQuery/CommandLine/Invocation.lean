import ODataQuery.CommandLine.Options
import ODataQuery.QueryString.Parameters

/-!
# Invocations

What the program is asked to do by its arguments.

* `Invocation`, `Command`: the commands, and the directory of the configuration they use.
* `Invocation.ofArguments`: the invocation of a list of arguments.

The directory may be named before and after the subcommand, of which the later one counts, or by the
environment, or else it is the working directory.
-/

set_option autoImplicit false

namespace ODataQuery
namespace CommandLine

/-- A query over a table of the configuration, and how it is to be printed. -/
structure TranslateArguments where
  table : String
  filter : Option String := none
  orderBy : Option String := none
  skip : Option String := none
  top : Option String := none
  inlineCount : Option String := none
  /-- A query string, which takes the place of the five parameters. -/
  queryString : Option String := none
  /-- Asks for SQL over several lines, as a formatter lays it out. -/
  pretty : Bool := false
  deriving DecidableEq, Repr

namespace TranslateArguments

/-- The text of a parameter. -/
def parameter? (arguments : TranslateArguments) : Parameter → Option String
  | .filter => arguments.filter
  | .orderBy => arguments.orderBy
  | .skip => arguments.skip
  | .top => arguments.top
  | .inlineCount => arguments.inlineCount

/-- The parameters that are given, with their keys. -/
def pairs (arguments : TranslateArguments) : List (String × String) :=
  Parameter.all.filterMap fun parameter =>
    (arguments.parameter? parameter).map fun text => (parameter.key, text)

/-- The query that the arguments ask. -/
def query (arguments : TranslateArguments) (schema : Schema) : Except ParseError Query :=
  match arguments.queryString with
  | some queryString => Query.parseQueryString schema queryString
  | none => Query.parse schema arguments.pairs

end TranslateArguments

/-- What the program does. -/
inductive Command where
  /-- Print the SQL of a query. -/
  | translate (arguments : TranslateArguments)
  /-- Print the JSON schema of configurations. -/
  | printSchema
  /-- Store a configuration to start with in a directory. -/
  | create (directory : String)
  deriving DecidableEq, Repr

/-- A command with what all commands have. -/
structure Invocation where
  /-- The directory of the configuration. -/
  directory : String
  /-- Asks for more to be logged. -/
  verbose : Bool
  command : Command
  deriving DecidableEq, Repr

/-! ## The forms of the commands -/

/-- The option that names the directory of the configuration. -/
def directoryOption : OptionForm := ⟨"configuration", some 'c', .value .notEmpty⟩

/-- The options of every command, and of the program before the subcommand. -/
def commonOptions : List OptionForm := [
  directoryOption,
  ⟨"verbose", some 'v', .switch⟩,
  ⟨"help", some 'h', .help⟩]

/-- What the program takes before the subcommand. -/
def programForm : CommandForm where
  options := commonOptions ++ [⟨"version", some 'V', .version⟩]

/-- What `translate` takes. -/
def translateForm : CommandForm where
  options := commonOptions ++ [
    ⟨"filter", none, .value .anyText⟩,
    ⟨"orderby", none, .value .anyText⟩,
    ⟨"skip", none, .value .anyText⟩,
    ⟨"top", none, .value .anyText⟩,
    ⟨"inlinecount", none, .value (.oneOf [InlineCount.none.keyword, InlineCount.allPages.keyword])⟩,
    ⟨"query-string", none, .value .anyText⟩,
    ⟨"pretty", none, .switch⟩]
  operands := [("table", .anyText)]
  conflicts := [("query-string", ["filter", "orderby", "skip", "top", "inlinecount"])]

/-- What `print-schema` takes. -/
def printSchemaForm : CommandForm where
  options := commonOptions

/-- What `initialize` takes. -/
def createForm : CommandForm where
  options := commonOptions
  operands := [("dir", .notEmpty)]

/-! ## The commands of arguments -/

namespace Command

/-- The command that a `translate` with complete arguments is. -/
def ofTranslate (given : List (String × String)) : Command :=
  .translate {
    table := (given.lookup "table").getD ""
    filter := given.lookup "filter"
    orderBy := given.lookup "orderby"
    skip := given.lookup "skip"
    top := given.lookup "top"
    inlineCount := given.lookup "inlinecount"
    queryString := given.lookup "query-string"
    pretty := (given.lookup "pretty").isSome }

/-- The command that an `initialize` with complete arguments is. -/
def ofCreate (given : List (String × String)) : Command :=
  .create ((given.lookup "dir").getD "")

/-- The subcommands: the name of each, its form, and the command of what it is given. -/
def subcommands : List (String × CommandForm × (List (String × String) → Command)) := [
  ("translate", translateForm, ofTranslate),
  ("print-schema", printSchemaForm, fun _ => .printSchema),
  ("initialize", createForm, ofCreate)]

/-- The name of the subcommand that shows help. -/
def helpName : String := "help"

/-- The names of all subcommands. -/
def names : List String :=
  subcommands.map Prod.fst ++ [helpName]

/-- The answer to a request for help, which may name one subcommand. -/
def helpAnswer : List String → UsageError
  | [] => .displayHelp
  | [name] => if names.contains name then .displayHelp else .invalidSubcommand
  | _ => .invalidSubcommand

end Command

namespace Invocation

/-- The directory of a configuration in what is given, or else in the environment, whose text is a
value like any other. -/
def directoryIn (environment : Option String) (given : List (String × String)) :
    Except UsageError (Option String) :=
  match given.lookup directoryOption.name, environment with
  | some directory, _ => .ok (some directory)
  | none, some directory =>
    if ValueRule.notEmpty.allows directory then .ok (some directory) else .error .invalidValue
  | none, none => .ok none

/-- The error of arguments without a subcommand. -/
def withoutSubcommand (environment : Option String) (given : List (String × String)) : UsageError :=
  if given.isEmpty && environment.isNone then .displayHelpOnMissingArgumentOrSubcommand
  else .missingSubcommand

/-- The invocation of a list of arguments.  `environment` is the directory of the configuration that
the environment names. -/
def ofArguments (environment : Option String) (arguments : List String) :
    Except UsageError Invocation := do
  let (outer, found) ← Reading.readUntil programForm Command.names {} arguments
  match found with
  | none =>
    let outer ← outer.settlePending
    let _ ← directoryIn environment outer.given
    .error (withoutSubcommand environment outer.given)
  | some (name, rest) =>
    match Command.subcommands.lookup name with
    | none => .error (Command.helpAnswer rest)
    | some (form, command) =>
      let inner ← Reading.readAll form {} rest
      let _ ← directoryIn environment inner.given
      form.check inner.given
      let outer ← outer.settlePending
      let given := inner.given ++ outer.given
      let directory ← directoryIn environment given
      .ok ⟨directory.getD ".", (given.lookup "verbose").isSome, command inner.given⟩

end Invocation
end CommandLine
end ODataQuery
