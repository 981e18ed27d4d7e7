/-!
# Options and operands

How the arguments of a command are taken apart.  A command has options, which are named, and
operands, which are known by their order; a program may have subcommands, each with a form of its
own.

* An argument `--name` or `-n` is an option.  One that takes a value finds it after `=`, directly
  after its letter, or in the next argument; letters of switches may be put together.  No argument
  that looks like an option is a value.
* `--` ends the options.
* Every option and every operand is given once at most, and every operand has to be.

`Reading.step` reads one argument.  A value is checked when the next option or operand is met, so of
two faults in different arguments mostly the first is reported.
-/

set_option autoImplicit false

namespace ODataQuery
namespace CommandLine

/-- Why a program does not run on its arguments. -/
inductive UsageError where
  | invalidValue
  | unknownArgument
  | invalidSubcommand
  | argumentConflict
  | tooManyValues
  | missingRequiredArgument
  | missingSubcommand
  | displayHelp
  | displayHelpOnMissingArgumentOrSubcommand
  | displayVersion
  deriving DecidableEq, Repr

/-- The name of the reason. -/
def UsageError.name : UsageError → String
  | invalidValue => "InvalidValue"
  | unknownArgument => "UnknownArgument"
  | invalidSubcommand => "InvalidSubcommand"
  | argumentConflict => "ArgumentConflict"
  | tooManyValues => "TooManyValues"
  | missingRequiredArgument => "MissingRequiredArgument"
  | missingSubcommand => "MissingSubcommand"
  | displayHelp => "DisplayHelp"
  | displayHelpOnMissingArgumentOrSubcommand => "DisplayHelpOnMissingArgumentOrSubcommand"
  | displayVersion => "DisplayVersion"

/-! ## Forms of commands -/

/-- Which texts are values. -/
inductive ValueRule where
  | anyText
  | notEmpty
  | oneOf (words : List String)
  deriving DecidableEq, Repr

/-- Is a text a value. -/
def ValueRule.allows : ValueRule → String → Bool
  | anyText, _ => true
  | notEmpty, text => !text.isEmpty
  | oneOf words, text => words.contains text

/-- What an option does. -/
inductive OptionKind where
  | value (rule : ValueRule)
  | switch
  | help
  | version
  deriving DecidableEq, Repr

/-- An option: its name, and the letter that is short for it. -/
structure OptionForm where
  name : String
  letter : Option Char := none
  kind : OptionKind
  deriving DecidableEq, Repr

/-- The arguments that a command takes. -/
structure CommandForm where
  options : List OptionForm
  /-- The operands in order, each with its name. -/
  operands : List (String × ValueRule) := []
  /-- Options of which the first is not given together with one of the others. -/
  conflicts : List (String × List String) := []
  deriving DecidableEq, Repr

/-- An argument by what it looks like. -/
inductive Argument where
  /-- The end of the options. -/
  | separator
  | long (name : String) (value : Option String)
  | short (letters : List Char)
  | plain (text : String)
  deriving DecidableEq, Repr

/-- What an argument looks like. -/
def Argument.ofText (text : String) : Argument :=
  match text.toList with
  | ['-', '-'] => separator
  | '-' :: '-' :: rest =>
    let name := String.ofList (rest.takeWhile (· ≠ '='))
    match rest.dropWhile (· ≠ '=') with
    | [] => long name none
    | _ :: value => long name (some (String.ofList value))
  | '-' :: letter :: rest => short (letter :: rest)
  | _ => plain text

/-! ## Reading -/

/-- The option or operand that was met last: its value is still to be checked, or still to come. -/
structure Pending where
  name : String
  rule : ValueRule
  value : Option String
  deriving DecidableEq, Repr

/-- What has been read of the arguments of a command. -/
structure Reading where
  /-- The options and operands that are complete, with their values; a switch has an empty one. -/
  given : List (String × String) := []
  pending : Option Pending := none
  operandsMet : Nat := 0
  /-- Were the options ended. -/
  operandsOnly : Bool := false
  deriving DecidableEq, Repr

namespace Reading

/-- Does the option that was met last wait for its value. -/
def awaitsValue (reading : Reading) : Bool :=
  match reading.pending with
  | some pending => pending.value.isNone
  | none => false

/-- Add an option or operand with its value. -/
def settle (reading : Reading) (name : String) (rule : ValueRule) (value : String) :
    Except UsageError Reading :=
  if (reading.given.lookup name).isSome then .error .argumentConflict
  else if rule.allows value then .ok { reading with given := reading.given ++ [(name, value)] }
  else .error .invalidValue

/-- Check the value of the option or operand that was met last. -/
def settlePending (reading : Reading) : Except UsageError Reading :=
  match reading.pending with
  | none => .ok reading
  | some ⟨_, _, none⟩ => .error .invalidValue
  | some ⟨name, rule, some value⟩ => settle { reading with pending := none } name rule value

/-- Read an option without a value. -/
def readOption (reading : Reading) (option : OptionForm) : Except UsageError Reading := do
  let reading ← reading.settlePending
  match option.kind with
  | .value rule => .ok { reading with pending := some ⟨option.name, rule, none⟩ }
  | .switch => reading.settle option.name .anyText ""
  | .help => .error .displayHelp
  | .version => .error .displayVersion

/-- Read an option with a value. -/
def readOptionWith (reading : Reading) (option : OptionForm) (value : String) :
    Except UsageError Reading :=
  match option.kind with
  | .value rule => do
    let reading ← reading.settlePending
    reading.settle option.name rule value
  | _ => .error .tooManyValues

/-- Read an option by its name. -/
def readLong (form : CommandForm) (reading : Reading) (name : String) (value : Option String) :
    Except UsageError Reading :=
  match form.options.find? (·.name == name), value with
  | none, _ => .error .unknownArgument
  | some option, none => reading.readOption option
  | some option, some value => reading.readOptionWith option value

/-- Read options by their letters, of which the last may be followed by its value. -/
def readLetters (form : CommandForm) (reading : Reading) : List Char → Except UsageError Reading
  | [] => .ok reading
  | letter :: rest =>
    match form.options.find? (·.letter == some letter) with
    | none => .error .unknownArgument
    | some option =>
      match option.kind, rest with
      | .value _, '=' :: value => reading.readOptionWith option (String.ofList value)
      | .value _, first :: value => reading.readOptionWith option (String.ofList (first :: value))
      | _, rest => do
        let reading ← reading.readOption option
        readLetters form reading rest

/-- Read an operand.  `excess` is the error if the command takes no more. -/
def readOperand (form : CommandForm) (excess : UsageError) (reading : Reading) (text : String) :
    Except UsageError Reading :=
  match form.operands[reading.operandsMet]? with
  | none => .error excess
  | some (name, rule) => do
    let reading ← reading.settlePending
    .ok { reading with
      pending := some ⟨name, rule, some text⟩
      operandsMet := reading.operandsMet + 1 }

/-- Read a text that does not look like an option. -/
def readPlain (form : CommandForm) (excess : UsageError) (reading : Reading) (text : String) :
    Except UsageError Reading :=
  match reading.pending with
  | some ⟨name, rule, none⟩ => .ok { reading with pending := some ⟨name, rule, some text⟩ }
  | _ => reading.readOperand form excess text

/-- Read one argument. -/
def step (form : CommandForm) (excess : UsageError) (reading : Reading) (text : String) :
    Except UsageError Reading :=
  if reading.operandsOnly then reading.readOperand form excess text
  else
    match Argument.ofText text with
    | .separator => .ok { reading with operandsOnly := true }
    | .long name value => reading.readLong form name value
    | .short letters => reading.readLetters form letters
    | .plain text => reading.readPlain form excess text

/-- Read the arguments of a command without subcommands. -/
def readAll (form : CommandForm) (reading : Reading) : List String → Except UsageError Reading
  | [] => reading.settlePending
  | text :: rest => do
    let reading ← reading.step form .unknownArgument text
    readAll form reading rest

/-- Read the arguments before a subcommand: what they are, the subcommand, and the arguments after
it. -/
def readUntil (form : CommandForm) (subcommands : List String) (reading : Reading) :
    List String → Except UsageError (Reading × Option (String × List String))
  | [] => .ok (reading, none)
  | text :: rest =>
    let named := subcommands.contains text
    if named && !reading.operandsOnly && !reading.awaitsValue then
      .ok (reading, some (text, rest))
    else do
      let excess := if named then .unknownArgument else .invalidSubcommand
      let reading ← reading.step form excess text
      readUntil form subcommands reading rest

end Reading

/-! ## Checks of a whole command -/

namespace CommandForm

/-- Are there two options that are not given together. -/
def hasConflict (form : CommandForm) (given : List (String × String)) : Bool :=
  let isGiven (name : String) := (given.lookup name).isSome
  form.conflicts.any fun (name, others) => isGiven name && others.any isGiven

/-- Is there an operand that is not given. -/
def lacksOperand (form : CommandForm) (given : List (String × String)) : Bool :=
  form.operands.any fun (name, _) => !(given.lookup name).isSome

/-- Check what was given to a command. -/
def check (form : CommandForm) (given : List (String × String)) : Except UsageError Unit :=
  if form.hasConflict given then .error .argumentConflict
  else if form.lacksOperand given then .error .missingRequiredArgument
  else .ok ()

end CommandForm
end CommandLine
end ODataQuery
