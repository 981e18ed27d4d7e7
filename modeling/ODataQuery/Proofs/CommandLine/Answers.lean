import ODataQuery.CommandLine.Commands
import ODataQuery.Proofs.Configuration.Catalog
import ODataQuery.Proofs.QueryString.Parameters
import ODataQuery.Proofs.Schema.Inheritance
import ODataQuery.Proofs.Sql.Characters
import ODataQuery.Proofs.Sql.DescribedValues

/-!
# The lines of an answer

The SQL of a query is meant to be printed line by line: a comment, the statement, and one comment
for each parameter.  The statements keep to their lines, since nothing of a filter stands in them.
The values of the parameters are printed as they are, and the strings among them come from whoever
asks the query: what follows a line break inside a string is on a line that is no comment.

* `Configuration.IsUnbroken`: neither the text of a table nor the name of a column holds a line
  break; so no statement holds one (`Configuration.IsUnbroken.not_mem_statement`).
* `CommandLine.statementLines`: the lines that are meant to show a statement.
* `CommandLine.mem_parameterLine_iff`: the line of a parameter holds a line break exactly if its
  value does.
* `CommandLine.TranslateArguments.isLaidOut_of_answer_iff`: so an answer shows its statements line
  by line exactly if no parameter holds a line break.
-/

set_option autoImplicit false

namespace ODataQuery

open Text

/-! ## Configurations -/

/-- Neither the text of a table nor the name of a column holds a line break. -/
def Configuration.IsUnbroken (configuration : Configuration) : Prop :=
  (∀ table ∈ configuration.tables.entries, '\n' ∉ table.2.sql.toList)
    ∧ ∀ shape ∈ configuration.shapes.entries, ∀ property ∈ shape.2.properties.entries,
      '\n' ∉ (property.2.columnName property.1).toList

instance (configuration : Configuration) : Decidable configuration.IsUnbroken :=
  inferInstanceAs (Decidable (_ ∧ _))

namespace Configuration.IsUnbroken

variable {configuration : Configuration} {catalog : Catalog} {name : String}
  {entry : CatalogTable}

/-- The text of a table and the names of its columns hold no line break. -/
theorem of_table? (h : configuration.IsUnbroken) (hcatalog : configuration.catalog = .ok catalog)
    (hentry : catalog.table? name = some entry) :
    '\n' ∉ entry.baseSql.toList ∧ entry.table.AllowsColumns (· ≠ '\n') := by
  obtain ⟨-, htables, -⟩ := Configuration.catalog_eq_ok.1 hcatalog
  obtain ⟨definition, hdefinition, hresolve⟩ := Dictionary.exists_of_get?_traverse htables hentry
  obtain ⟨-, schema, hschema, -, rfl⟩ := TableDefinition.resolve_eq_ok.1 hresolve
  refine ⟨h.1 _ (Dictionary.mem_entries_of_get? hdefinition),
    fun property column hcolumn c hc => ?_⟩
  rw [(Catalog.wellFormed hcatalog hentry).columns, Option.map_eq_some_iff] at hcolumn
  obtain ⟨declared, hdeclared, rfl⟩ := hcolumn
  obtain ⟨steps, shape, hshape, hproperty, -⟩ := (Shapes.property?_of_resolve hschema).1 hdeclared
  obtain ⟨ancestor, -, hget⟩ := Option.bind_eq_some_iff.1 hshape
  rintro rfl
  exact h.2 _ (Dictionary.mem_entries_of_get? hget) _ (Dictionary.mem_entries_of_get? hproperty) hc

/-- **No statement holds a line break.** -/
theorem not_mem_statement (h : configuration.IsUnbroken)
    (hcatalog : configuration.catalog = .ok catalog) (hentry : catalog.table? name = some entry)
    {query : Query} (hsuits : query.Suits entry.schema) {plan : Sql.Plan}
    (hplan : entry.table.plan entry.baseSql query = .ok plan) (shape : Sql.ExpectedShape) :
    '\n' ∉ (plan.statement shape).text.toList := by
  obtain ⟨hbase, hcolumns⟩ := h.of_table? hcatalog hentry
  have hprintable : Sql.AllowsPrintable (· ≠ '\n') := by
    rintro c hc rfl
    exact absurd hc (by decide)
  intro hmem
  exact Sql.Table.allowed_of_mem_statement hprintable (fun c hc heq => hbase (heq ▸ hc)) hcolumns
    (fun filter hfilter => ⟨_, hsuits.filter filter hfilter⟩) hplan shape _ hmem rfl

end Configuration.IsUnbroken

namespace CommandLine

/-! ## The lines of a statement -/

/-- The statements that are printed, below what they select. -/
def shownStatements (plan : Sql.Plan) : InlineCount → List (String × Sql.Statement)
  | .none => [("rows", plan.statement .rows)]
  | .allPages => [("rows", plan.statement .rows), ("count", plan.statement .count)]

theorem mem_shownStatements {plan : Sql.Plan} {inlineCount : InlineCount}
    {shown : String × Sql.Statement} (h : shown ∈ shownStatements plan inlineCount) :
    ∃ label shape, '\n' ∉ label.toList ∧ shown = (label, plan.statement shape) := by
  have hrows : '\n' ∉ "rows".toList := by decide
  have hcount : '\n' ∉ "count".toList := by decide
  cases inlineCount with
  | none => exact ⟨_, _, hrows, List.mem_singleton.1 h⟩
  | allPages =>
    rcases List.mem_cons.1 h with h | h
    · exact ⟨_, _, hrows, h⟩
    · exact ⟨_, _, hcount, List.mem_singleton.1 h⟩

/-- The lines that are meant to show a statement: what it selects, the statement, and the value of
each parameter, in the order of the placeholders. -/
def statementLines (label : String) (statement : Sql.Statement) : List String :=
  ("-- " ++ label) :: statement.text :: statement.parameters.mapIdx fun i parameter =>
    s!"-- p{i + 1} = " ++ Sql.BoundValue.describe parameter.value

/-- Parameters are named by their numbers, so their lines show these. -/
theorem map_parameterLine (dialect : Sql.Dialect) (fragment : Sql.Fragment) :
    (fragment.toStatement dialect).parameters.map parameterLine
      = (fragment.toStatement dialect).parameters.mapIdx fun i parameter =>
        s!"-- p{i + 1} = " ++ Sql.BoundValue.describe parameter.value := by
  have hline (i : Nat) (value : Value) : parameterLine ⟨s!"p{i + 1}", value⟩
      = s!"-- p{i + 1} = " ++ Sql.BoundValue.describe value := by
    simp [parameterLine, toString, ← String.toList_inj]
  rw [Sql.Fragment.parameters_toStatement]
  refine List.ext_getElem (by simp) fun i _ _ => ?_
  rw [List.getElem_map, List.getElem_mapIdx, List.getElem_mapIdx, List.getElem_mapIdx, hline]

theorem labelled_eq (label : String) (plan : Sql.Plan) (shape : Sql.ExpectedShape) :
    labelled id label (plan.statement shape)
      = String.join ((statementLines label (plan.statement shape)).map (· ++ "\n")) := by
  rw [labelled, statementLines]
  cases shape <;> exact congrArg (fun lines => String.join (List.map _ (_ :: _ :: lines)))
    (map_parameterLine ..)

/-- **An answer is made of the lines of its statements**, each of them ended, and an empty line
between the statements. -/
theorem printed_eq (plan : Sql.Plan) (inlineCount : InlineCount) : ∃ pieces : List String,
    printed id plan inlineCount = String.join (pieces.map (· ++ "\n"))
      ∧ pieces ++ [""] = (shownStatements plan inlineCount).flatMap fun shown =>
        statementLines shown.1 shown.2 ++ [""] := by
  cases inlineCount with
  | none =>
    refine ⟨statementLines "rows" (plan.statement .rows), ?_, ?_⟩
    · rw [printed, labelled_eq]
    · simp [shownStatements]
  | allPages =>
    refine ⟨statementLines "rows" (plan.statement .rows)
      ++ "" :: statementLines "count" (plan.statement .count), ?_, ?_⟩
    · rw [printed, labelled_eq, labelled_eq]
      simp [String.join_append, String.append_assoc]
    · simp [shownStatements]

/-! ## Line breaks -/

/-- The line of a parameter holds a line break exactly if its value does. -/
theorem mem_parameterLine_iff {i : Nat} {value : Value} :
    '\n' ∈ (s!"-- p{i + 1} = " ++ Sql.BoundValue.describe value).toList ↔ value.Holds "\n" := by
  have hline : "\n" ≠ "" := by decide
  have hnumber : '\n' ∉ (s!"-- p{i + 1} = ").toList := by
    have hdigits : '\n' ∉ Nat.toDigits 10 (i + 1) := fun hmem =>
      absurd (isAsciiDigit_of_mem_toDigits hmem) (by decide)
    simp [toString, hdigits]
  rw [String.toList_append, List.mem_append, or_iff_right hnumber,
    ← Sql.BoundValue.infix_describe_iff hline (by decide)]
  exact (List.singleton_infix_iff ..).symm

/-- **The lines of a statement hold a line break exactly if the statement or one of its parameters
does.** -/
theorem mem_statementLines_iff {label : String} (hlabel : '\n' ∉ label.toList)
    {statement : Sql.Statement} (htext : '\n' ∉ statement.text.toList) :
    (∀ line ∈ statementLines label statement, '\n' ∉ line.toList)
      ↔ ∀ parameter ∈ statement.parameters, ¬ parameter.value.Holds "\n" := by
  have hcomment : '\n' ∉ ("-- " ++ label).toList := by simp [hlabel]
  rw [statementLines, List.forall_mem_cons, List.forall_mem_cons, and_iff_right hcomment,
    and_iff_right htext]
  constructor
  · intro h parameter hmem
    obtain ⟨i, hi, rfl⟩ := List.mem_iff_getElem.1 hmem
    rw [← mem_parameterLine_iff (i := i)]
    exact h _ (List.mem_mapIdx.2 ⟨i, hi, rfl⟩)
  · intro h line hmem
    obtain ⟨i, hi, rfl⟩ := List.mem_mapIdx.1 hmem
    rw [mem_parameterLine_iff]
    exact h _ (List.getElem_mem hi)

/-- A line of a statement is the statement or a comment. -/
theorem comment_of_mem_statementLines {label line : String} {statement : Sql.Statement}
    (h : line ∈ statementLines label statement) :
    line = statement.text ∨ "-- ".toList <+: line.toList := by
  rw [statementLines, List.mem_cons, List.mem_cons, List.mem_mapIdx] at h
  rcases h with rfl | rfl | ⟨i, -, rfl⟩
  · exact .inr ⟨label.toList, by simp⟩
  · exact .inl rfl
  · refine .inr ?_
    simp [toString]

/-! ## Answers -/

/-- An answer shows statements line by line: every line is empty, a statement or a comment, and each
statement is followed by one line for each parameter, in the order of the placeholders. -/
def IsLaidOut (shown : List (String × Sql.Statement)) (output : String) : Prop :=
  (lines output = shown.flatMap fun shown => statementLines shown.1 shown.2 ++ [""])
    ∧ ∀ line ∈ lines output,
      line = "" ∨ line ∈ shown.map (·.2.text) ∨ "-- ".toList <+: line.toList

namespace TranslateArguments

variable {arguments : TranslateArguments} {format : SqlFormatter} {path text output : String}
  {configuration : Configuration}

/-- Statements stay as they are unless they are to be laid out. -/
theorem layOut_of_not_pretty (h : arguments.pretty = false) : arguments.layOut format = id := by
  rw [layOut, h, if_neg Bool.false_ne_true]

theorem answerFrom_eq_ok {catalog : Catalog} : arguments.answerFrom format catalog = .ok output
    ↔ ∃ entry query plan, catalog.table? arguments.table = some entry
      ∧ arguments.query entry.schema = .ok query
      ∧ entry.table.plan entry.baseSql query = .ok plan
      ∧ printed (arguments.layOut format) plan query.inlineCount = output := by
  rw [answerFrom]
  cases catalog.table? arguments.table with
  | none => simp
  | some entry =>
    simp only [bind_eq_ok, mapError_eq_ok, Except.ok.injEq, Option.some.injEq]
    constructor
    · rintro ⟨query, hquery, plan, hplan, houtput⟩
      exact ⟨entry, query, plan, rfl, hquery, hplan, houtput⟩
    · rintro ⟨_, query, plan, rfl, hquery, hplan, houtput⟩
      exact ⟨query, hquery, plan, hplan, houtput⟩

/-- An answer is given from the catalog of the configuration that the file holds. -/
theorem answer_eq_ok (hread : Configuration.read path text = .ok configuration) :
    arguments.answer format path (.ok text) = .ok output
      ↔ ∃ catalog, configuration.catalog = .ok catalog
        ∧ arguments.answerFrom format catalog = .ok output := by
  have hfile {ε : Type} (f : FileError → ε) :
      (Except.ok text : Except FileError String).mapError f = .ok text := rfl
  simp only [answer, hfile, hread, bind_eq_ok, mapError_eq_ok, Except.ok.injEq, exists_eq_left']

/-- The query of an answer suits the schema of its table. -/
theorem suits_of_query {schema : Schema} {query : Query}
    (h : arguments.query schema = .ok query) : query.Suits schema := by
  rw [TranslateArguments.query] at h
  split at h
  · obtain ⟨parameters, -, hparse⟩ := bind_eq_ok.1 h
    exact Query.suits_of_parse hparse
  · exact Query.suits_of_parse h

/-- **An answer shows its statements line by line exactly if no parameter holds a line break.** -/
theorem isLaidOut_of_answer_iff (format : SqlFormatter) (arguments : TranslateArguments)
    (hread : Configuration.read path text = .ok configuration)
    (hunbroken : configuration.IsUnbroken)
    (hanswer : ({ arguments with pretty := false } : TranslateArguments).answer format path
      (.ok text) = .ok output) :
    ∃ catalog entry query plan, configuration.catalog = .ok catalog
      ∧ catalog.table? arguments.table = some entry ∧ arguments.query entry.schema = .ok query
      ∧ entry.table.plan entry.baseSql query = .ok plan
      ∧ (IsLaidOut (shownStatements plan query.inlineCount) output
        ↔ ∀ shown ∈ shownStatements plan query.inlineCount, ∀ parameter ∈ shown.2.parameters,
          ¬ parameter.value.Holds "\n") := by
  obtain ⟨catalog, hcatalog, hanswer⟩ := (answer_eq_ok hread).1 hanswer
  obtain ⟨entry, query, plan, hentry, hquery, hplan, rfl⟩ := answerFrom_eq_ok.1 hanswer
  refine ⟨catalog, entry, query, plan, hcatalog, hentry, hquery, hplan, ?_⟩
  rw [layOut_of_not_pretty rfl]
  obtain ⟨pieces, hprinted, hpieces⟩ := printed_eq plan query.inlineCount
  have hbroken : ∀ shown ∈ shownStatements plan query.inlineCount,
      (∀ line ∈ statementLines shown.1 shown.2, '\n' ∉ line.toList)
        ↔ ∀ parameter ∈ shown.2.parameters, ¬ parameter.value.Holds "\n" := by
    intro shown hmem
    obtain ⟨label, shape, hlabel, rfl⟩ := mem_shownStatements hmem
    exact mem_statementLines_iff hlabel
      (hunbroken.not_mem_statement hcatalog hentry (suits_of_query hquery) hplan shape)
  have hpieces' : (∀ piece ∈ pieces, '\n' ∉ piece.toList)
      ↔ ∀ shown ∈ shownStatements plan query.inlineCount, ∀ parameter ∈ shown.2.parameters,
        ¬ parameter.value.Holds "\n" := by
    have hempty : '\n' ∉ "".toList := by decide
    have hlast : (∀ piece ∈ pieces, '\n' ∉ piece.toList)
        ↔ ∀ piece ∈ pieces ++ [""], '\n' ∉ piece.toList := by
      rw [List.forall_mem_append, List.forall_mem_singleton, and_iff_left hempty]
    rw [hlast, hpieces, List.forall_mem_flatMap]
    refine forall₂_congr fun shown hmem => ?_
    rw [List.forall_mem_append, List.forall_mem_singleton, and_iff_left hempty, hbroken shown hmem]
  rw [IsLaidOut, ← hpieces', ← lines_join_eq_iff, ← hprinted, hpieces]
  refine and_iff_left_of_imp fun hlines line hline => ?_
  rw [hlines] at hline
  obtain ⟨shown, hmem, hline⟩ := List.mem_flatMap.1 hline
  rcases List.mem_append.1 hline with hline | hline
  · rcases comment_of_mem_statementLines hline with rfl | hcomment
    · exact .inr (.inl (List.mem_map.2 ⟨shown, hmem, rfl⟩))
    · exact .inr (.inr hcomment)
  · exact .inl (List.mem_singleton.1 hline)

/-- A configuration with one table. -/
def notes : Configuration where
  dialect := .preset .sqlite
  shapes := .ofList [("Note", { properties := .ofList [("Text", { type := .string })] })]
  tables := .ofList [("notes", { sql := "notes", shape := "Note" })]

/-- The table of the configuration, ready to be queried. -/
def notesTable : CatalogTable :=
  let schema : Schema := ⟨"Note", .ofList [("Text", { type := .string })]⟩
  ⟨"notes", schema, .ofSchema .sqlite schema⟩

theorem catalog_notes : notes.catalog = .ok ⟨.sqlite, .ofList [("notes", notesTable)]⟩ := by
  decide +kernel

/-- The configuration is read back from its text. -/
theorem read_notes : Configuration.read "configuration.json" notes.toJson.compact = .ok notes := by
  rw [← toOption_eq_some]
  decide +kernel

/-- An answer over the table whose statements stay as they are, whatever the formatter. -/
theorem answer_notes (hpretty : arguments.pretty = false)
    (h : (arguments.answerFrom id ⟨.sqlite, .ofList [("notes", notesTable)]⟩).toOption
      = some output) (format : SqlFormatter) :
    arguments.answer format "configuration.json" (.ok notes.toJson.compact) = .ok output := by
  refine (answer_eq_ok read_notes).2 ⟨_, catalog_notes, ?_⟩
  rw [answerFrom, layOut_of_not_pretty hpretty, ← toOption_eq_some.1 h, answerFrom,
    layOut_of_not_pretty hpretty]

/-- The rows and their count, for a filter with a quote and dashes in its string. -/
theorem isLaidOut_of_answer_iff_of_count :
    let arguments : TranslateArguments := {
      table := "notes", filter := some "Text eq 'it''s -- here'", inlineCount := some "allpages" }
    ∀ format : SqlFormatter, ∃ output catalog entry query plan,
      arguments.answer format "configuration.json" (.ok notes.toJson.compact) = .ok output
        ∧ notes.catalog = .ok catalog ∧ catalog.table? "notes" = some entry
        ∧ arguments.query entry.schema = .ok query
        ∧ entry.table.plan entry.baseSql query = .ok plan
        ∧ IsLaidOut (shownStatements plan query.inlineCount) output := by
  intro arguments format
  have hanswer : (arguments.answerFrom id
      ⟨.sqlite, .ofList [("notes", notesTable)]⟩).toOption.isSome = true := by
    decide +kernel
  obtain ⟨output, houtput⟩ := Option.isSome_iff_exists.1 hanswer
  have hanswer := answer_notes rfl houtput format
  obtain ⟨catalog, entry, query, plan, hcatalog, hentry, hquery, hplan, hiff⟩ :=
    isLaidOut_of_answer_iff format arguments read_notes (by decide) hanswer
  refine ⟨output, catalog, entry, query, plan, hanswer, hcatalog, hentry, hquery, hplan, hiff.2 ?_⟩
  obtain rfl : _ = catalog := Except.ok.inj (catalog_notes.symm.trans hcatalog)
  obtain rfl : notesTable = entry := by
    have hfound : (Dictionary.ofList [("notes", notesTable)]).get? "notes" = some notesTable := by
      decide
    exact Option.some.inj (hfound.symm.trans hentry)
  have hnone : (arguments.query notesTable.schema).toOption.all (fun query =>
      (notesTable.table.plan notesTable.baseSql query).toOption.all fun plan =>
        (shownStatements plan query.inlineCount).all fun shown =>
          shown.2.parameters.all fun parameter => ¬ parameter.value.Holds "\n") = true := by
    decide +kernel
  rw [toOption_eq_some.2 hquery, Option.all_some, toOption_eq_some.2 hplan,
    Option.all_some] at hnone
  simpa using hnone

/-- A comparison with a string of two lines: the second line of the string is a line of the answer,
and no comment. -/
theorem exists_answer_not_isLaidOut :
    ∃ (arguments : TranslateArguments) (output : String) (statement : Sql.Statement),
      arguments.pretty = false ∧ notes.IsUnbroken
      ∧ (∀ format : SqlFormatter,
        arguments.answer format "configuration.json" (.ok notes.toJson.compact) = .ok output)
      ∧ lines output = ["-- rows", statement.text, "-- p1 = 'a", "b'", ""]
      ∧ statement.parameters = [⟨"p1", .string "a\nb"⟩]
      ∧ ¬ IsLaidOut [("rows", statement)] output := by
  let statement : Sql.Statement := ⟨"SELECT \"q\".* FROM notes AS \"q\" WHERE (\"q\".\"Text\" = ?)",
    [⟨"p1", .string "a\nb"⟩]⟩
  let output := "-- rows\n" ++ statement.text ++ "\n-- p1 = 'a\nb'\n"
  let arguments : TranslateArguments := { table := "notes", filter := some "Text eq 'a\nb'" }
  have hanswer : (arguments.answerFrom id
      ⟨.sqlite, .ofList [("notes", notesTable)]⟩).toOption = some output := by
    decide +kernel
  refine ⟨arguments, output, statement, rfl, by decide, answer_notes rfl hanswer, by decide +kernel,
    rfl, fun h => ?_⟩
  have hline : "b'" ∈ lines output := by decide
  exact absurd (h.2 _ hline) (by decide)

end TranslateArguments
end CommandLine
end ODataQuery
