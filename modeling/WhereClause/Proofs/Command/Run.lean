import WhereClause.Command.Run
import WhereClause.Proofs.Command.Folder
import WhereClause.Proofs.Command.Request
import WhereClause.Proofs.GroupNames
import WhereClause.Proofs.Rendering

/-!
# Runs of a command

Main statement: a command that fails leaves nothing behind, one that succeeds prints its document
or writes it whole to one file, and compiling and rendering the same files tell of the same tree
or fail alike.
-/

namespace WhereClause.Command

theorem Fault.code_ne_zero (fault : Fault) : fault.code ≠ 0 := by
  cases fault <;> simp [Fault.code]

/-- Where the document goes does not matter for what it is. -/
theorem document_withoutOutput (read : String → Option String) (request : Request) :
    document read request.withoutOutput = document read request := by
  cases request <;> rfl

/-- A run fails, or prints its document, or writes it. -/
theorem Request.run_cases (request : Request) (folder : Folder) :
    (∃ fault, request.run folder = .failed folder fault) ∨
      ∃ text, document folder.read? request = .ok text ∧
        ((request.output? = none ∧ request.run folder = ⟨0, text ++ "\n", folder, none⟩) ∨
          ∃ path written, request.output? = some path ∧
            folder.write? path text = some written ∧
            request.run folder = ⟨0, "", written, none⟩) := by
  rw [Request.run]
  cases document folder.read? request with
  | error fault =>
      exact Or.inl ⟨fault, rfl⟩
  | ok text =>
      simp only [Outcome.delivered]
      cases request.output? with
      | none =>
          exact Or.inr ⟨text, rfl, Or.inl ⟨rfl, rfl⟩⟩
      | some path =>
          cases written : folder.write? path text with
          | none =>
              exact Or.inl ⟨.file, by simp [written]⟩
          | some after =>
              exact Or.inr ⟨text, rfl, Or.inr ⟨path, after, rfl, written, by simp [written]⟩⟩

/-- A run that names an output and succeeds writes what it would print without it. -/
theorem Request.isWritten_of_run
    {request : Request} {folder : Folder} {path : String} (named : request.output? = some path)
    (succeeds : (request.run folder).code = 0) :
    (request.run folder).printed = "" ∧
      ∃ text, request.withoutOutput.run folder = ⟨0, text ++ "\n", folder, none⟩ ∧
        folder.IsWritten path text (request.run folder).folder := by
  rcases request.run_cases folder with
    ⟨fault, failed⟩ | ⟨text, isDocument, ⟨unnamed, -⟩ | ⟨other, written, isOther, done, run⟩⟩
  · rw [failed] at succeeds
    exact absurd succeeds fault.code_ne_zero
  · rw [named] at unnamed
    cases unnamed
  · rw [named] at isOther
    cases isOther
    rw [run]
    refine ⟨rfl, text, ?_, Folder.isWritten_of_write? done⟩
    rw [Request.run, document_withoutOutput, isDocument]
    cases request <;> rfl

/-- A run that fails leaves nothing behind. -/
theorem Request.unchanged_of_run
    {request : Request} {folder : Folder} (fails : (request.run folder).code ≠ 0) :
    (request.run folder).printed = "" ∧ (request.run folder).folder = folder := by
  rcases request.run_cases folder with
    ⟨fault, failed⟩ | ⟨text, -, ⟨-, run⟩ | ⟨path, written, -, -, run⟩⟩
  · rw [failed]
    exact ⟨rfl, rfl⟩
  · rw [run] at fails
    exact absurd rfl fails
  · rw [run] at fails
    exact absurd rfl fails

/-- Whether a document can be delivered does not depend on what it holds. -/
theorem Outcome.delivered_congr
    (folder : Folder) (output : Option String) (text other : String) :
    (delivered folder output text).code = (delivered folder output other).code ∧
      (delivered folder output text).fault = (delivered folder output other).fault := by
  cases output with
  | none =>
      exact ⟨rfl, rfl⟩
  | some path =>
      have alike := folder.isSome_write?_congr path text other
      rw [delivered, delivered]
      cases first : folder.write? path text <;> cases second : folder.write? path other
      · exact ⟨rfl, rfl⟩
      · simp [first, second] at alike
      · simp [first, second] at alike
      · exact ⟨rfl, rfl⟩

theorem run_of_ofArguments?
    {arguments : List String} {request : Request}
    (accepted : Request.ofArguments? arguments = some request) (folder : Folder) :
    run arguments folder = request.run folder := by
  rw [run, accepted]

/-! ## Documents of groups -/

/-- What is read, taken a step further and finished, is the end of both steps finished. -/
theorem finish_eq_map
    {Read Result Finished : Type} (reading : Except Fault Read) (step : Read → Except Fault Result)
    (finish : Result → Finished) :
    (do
      let content ← reading
      let result ← step content
      return finish result) = (reading.bind step).map finish := by
  cases reading with
  | error fault =>
      rfl
  | ok content =>
      change (step content).bind (fun result => .ok (finish result)) = (step content).map finish
      cases step content <;> rfl

section Grouped

variable {read : String → Option String} {catalogPath : String} {groups : List Group}

theorem document_compile_of_grouped
    (isGrouped : readCatalog read catalogPath = .ok (.grouped groups))
    (filterPath : String) (emptyAsTautology : Bool) (output : Option String) :
    document read (.compile catalogPath filterPath emptyAsTautology output) =
      ((readFilter read filterPath).bind (grouped groups)).map
        fun result => result.text.write.indented := by
  rw [document, isGrouped]
  exact finish_eq_map _ _ _

theorem document_render_of_grouped
    (isGrouped : readCatalog read catalogPath = .ok (.grouped groups))
    (filterPath : String) (output : Option String) :
    document read (.render catalogPath filterPath output) =
      ((readFilter read filterPath).bind (grouped groups)).map
        fun result => (renderedDocument result).indented := by
  rw [document, isGrouped]
  exact finish_eq_map _ _ _

end Grouped

/-- Whether a compiled document and a rendered one tell of the same tree with the same
parameters, the rendered one with the text of that tree and with the names in it. -/
structure TellOf (result : GroupedFilter String) (compiled rendered : Json) : Prop where
  compiledTree : compiled.member? "filters" = some result.tree.write
  renderedTree : rendered.member? "filters" = some result.tree.write
  compiledParameters : compiled.member? "params" = some result.parameters.write
  renderedParameters : rendered.member? "params" = some result.parameters.write
  sql : rendered.member? "sql" = some (.str (result.tree.written GroupEntry.joinedText))
  groups : rendered.member? "groups" = some (.arr (result.tree.groupNames.map .str))

theorem tellOf_renderedDocument (result : GroupedFilter Phrase) :
    TellOf result.text result.text.write (renderedDocument result) where
  compiledTree := rfl
  renderedTree := rfl
  compiledParameters := rfl
  renderedParameters := rfl
  sql := by
    rw [GroupedFilter.text, ← GroupTree.text_render_joined]
    rfl
  groups := by
    rw [GroupedFilter.text, GroupTree.groupNames_map]
    rfl

/-- Whether a command line fails, nothing is printed and the folder stays as it is. If it
succeeds and names an output, nothing is printed either, and that file alone is written, with
what the command line prints without the option of the output, less the line break; the folder
is read before, so that the output may also be one of the files that are read. With a catalog of
groups, to compile and to render the same files fails in the same way, or gives documents that
tell of the same tree, wherever these go. -/
theorem run_is_whole_or_nothing (folder : Folder) :
    (∀ arguments request, Request.ofArguments? arguments = some request →
      ((run arguments folder).code ≠ 0 →
        (run arguments folder).printed = "" ∧ (run arguments folder).folder = folder) ∧
      ∀ path, request.output? = some path → (run arguments folder).code = 0 →
        (run arguments folder).printed = "" ∧
        ∃ earlier words later text,
          arguments = earlier ++ words ++ later ∧ NamesOutput path words ∧
          run (earlier ++ later) folder = ⟨0, text ++ "\n", folder, none⟩ ∧
          folder.IsWritten path text (run arguments folder).folder) ∧
    ∀ compiling rendering catalogPath filterPath emptyAsTautology compiledTo renderedTo groups,
      Request.ofArguments? compiling =
        some (.compile catalogPath filterPath emptyAsTautology compiledTo) →
      Request.ofArguments? rendering = some (.render catalogPath filterPath renderedTo) →
      readCatalog folder.read? catalogPath = .ok (.grouped groups) →
      (∀ fault, (readFilter folder.read? filterPath).bind (grouped groups) = .error fault →
        run compiling folder = .failed folder fault ∧
        run rendering folder = .failed folder fault) ∧
      (∀ result, (readFilter folder.read? filterPath).bind (grouped groups) = .ok result →
        ∃ compiled rendered, TellOf result.text compiled rendered ∧
          run compiling folder = .delivered folder compiledTo compiled.indented ∧
          run rendering folder = .delivered folder renderedTo rendered.indented) ∧
      (compiledTo = renderedTo →
        (run compiling folder).code = (run rendering folder).code ∧
        (run compiling folder).fault = (run rendering folder).fault) := by
  constructor
  · intro arguments request accepted
    rw [run_of_ofArguments? accepted]
    refine ⟨Request.unchanged_of_run, fun path named succeeds => ?_⟩
    obtain ⟨printsNothing, text, prints, isWritten⟩ :=
      Request.isWritten_of_run named succeeds
    obtain ⟨earlier, words, later, same, isOutput, others⟩ :=
      Request.exists_output_of_ofArguments? accepted named
    rw [← run_of_ofArguments? others] at prints
    exact ⟨printsNothing, earlier, words, later, text, same, isOutput, prints, isWritten⟩
  · intro compiling rendering catalogPath filterPath emptyAsTautology compiledTo renderedTo
      groups isCompile isRender isGrouped
    rw [run_of_ofArguments? isCompile, run_of_ofArguments? isRender]
    have compiles :=
      document_compile_of_grouped isGrouped filterPath emptyAsTautology compiledTo
    have renders := document_render_of_grouped isGrouped filterPath renderedTo
    rw [Request.run, Request.run, compiles, renders]
    cases (readFilter folder.read? filterPath).bind (grouped groups) with
    | error fault =>
        refine ⟨?_, ?_, fun _ => ⟨rfl, rfl⟩⟩
        · rintro _ ⟨⟩
          exact ⟨rfl, rfl⟩
        · rintro result ⟨⟩
    | ok result =>
        refine ⟨?_, ?_, ?_⟩
        · rintro fault ⟨⟩
        · rintro _ ⟨⟩
          exact ⟨_, _, tellOf_renderedDocument result, rfl, rfl⟩
        · rintro rfl
          exact Outcome.delivered_congr folder compiledTo _ _

/-- A folder with a catalog of one group, and with a filter on its column. -/
def memberFolder : Folder :=
  ⟨[(["schema.json"], .file
      ("\x7b\"groups\":[\x7b\"name\":\"members\"," ++
        "\"columnMap\":\x7b\"score\":\"m.score\"\x7d\x7d]\x7d").toUTF8.data.toList),
    (["filter.json"], .file
      "\x7b\"and\":[\x7b\"score\":\x7b\"gt\":1\x7d\x7d]\x7d".toUTF8.data.toList)]⟩

def scoreGroup : Group :=
  ⟨"members", ⟨Dict.ofList [("score", "m.score")], []⟩⟩

def scoreFilter : Json :=
  .obj [("and", .arr [.obj [("score", .obj [("gt", .int 1)])]])]

/-- The lines that the compiled and the rendered document of the filter end with. -/
def scoreLines : List String :=
  ["  \"filters\": \x7b",
    "    \"operator\": \"and\",",
    "    \"groups\": [",
    "      \x7b",
    "        \"groupName\": \"members\",",
    "        \"conditions\": [",
    "          \"(m.score > :score_1)\"",
    "        ]",
    "      \x7d",
    "    ],",
    "    \"childNodes\": []",
    "  \x7d,",
    "  \"params\": \x7b",
    "    \"score_1\": 1",
    "  \x7d",
    "\x7d"]

def compiledScores : String :=
  "\n".intercalate ("\x7b" :: scoreLines)

def renderedScores : String :=
  "\n".intercalate
    (["\x7b", "  \"sql\": \"(m.score > :score_1)\",", "  \"groups\": [", "    \"members\"",
      "  ],"] ++ scoreLines)

def compileScores : List String :=
  ["compile", "--schema", "schema.json", "--output=schema.json", "--filter", "filter.json"]

def renderScores : List String :=
  ["render", "--filter", "filter.json", "--schema=schema.json"]

def compileNothing : List String :=
  ["compile", "--schema", "schema.json", "--filter", "none.json", "--output", "schema.json"]

/-- The document may replace the catalog that it was compiled from, and where the filter is missing
the catalog stays. -/
theorem run_is_whole_or_nothing_of_memberFolder :
    ∃ printing result compiled rendered,
      splitAmong [scoreGroup] scoreFilter = .ok result ∧
      TellOf result.text compiled rendered ∧
      run compileScores memberFolder =
        .delivered memberFolder (some "schema.json") compiled.indented ∧
      run renderScores memberFolder = .delivered memberFolder none rendered.indented ∧
      (run renderScores memberFolder).printed = renderedScores ++ "\n" ∧
      (run compileScores memberFolder).code = 0 ∧
      (run compileScores memberFolder).printed = "" ∧
      run printing memberFolder = ⟨0, compiledScores ++ "\n", memberFolder, none⟩ ∧
      memberFolder.IsWritten "schema.json" compiledScores (run compileScores memberFolder).folder ∧
      (run compileNothing memberFolder).code = 1 ∧
      (run compileNothing memberFolder).printed = "" ∧
      (run compileNothing memberFolder).folder = memberFolder := by
  obtain ⟨alone, together⟩ := run_is_whole_or_nothing memberFolder
  have compiles :
      Request.ofArguments? compileScores =
        some (.compile "schema.json" "filter.json" false (some "schema.json")) := by
    decide
  have renders :
      Request.ofArguments? renderScores = some (.render "schema.json" "filter.json" none) := by
    decide
  have fails :
      Request.ofArguments? compileNothing =
        some (.compile "schema.json" "none.json" false (some "schema.json")) := by
    decide
  have isGrouped :
      readCatalog memberFolder.read? "schema.json" = .ok (.grouped [scoreGroup]) := rfl
  have isFilter : readFilter memberFolder.read? "filter.json" = .ok scoreFilter := by
    decide +kernel
  obtain ⟨result, isSplit⟩ : ∃ result, splitAmong [scoreGroup] scoreFilter = .ok result :=
    ⟨_, rfl⟩
  have splits :
      (readFilter memberFolder.read? "filter.json").bind (grouped [scoreGroup]) = .ok result := by
    rw [isFilter, Except.bind, grouped, isSplit]
    rfl
  obtain ⟨compiled, rendered, tell, compiledRun, renderedRun⟩ :=
    (together _ _ _ _ _ _ _ _ compiles renders isGrouped).2.1 result splits
  have printedByRender :
      (run renderScores memberFolder).printed = renderedScores ++ "\n" := by
    decide +kernel
  have succeeds : (run compileScores memberFolder).code = 0 := by
    rw [compiledRun]
    rfl
  have written :
      (run compileScores memberFolder).folder.read? "schema.json" = some compiledScores := by
    decide +kernel
  obtain ⟨printed, _, _, _, text, -, -, prints, isWritten⟩ :=
    (alone _ _ compiles).2 "schema.json" rfl succeeds
  have isText : compiledScores = text := Option.some.inj (written.symm.trans isWritten.held)
  subst isText
  have fault : (run compileNothing memberFolder).code = 1 := by
    decide +kernel
  obtain ⟨printsNothing, unchanged⟩ := (alone _ _ fails).1 (by rw [fault]; decide)
  exact ⟨_, result, compiled, rendered, isSplit, tell, compiledRun, renderedRun, printedByRender,
    succeeds, printed, prints, isWritten, fault, printsNothing, unchanged⟩

end WhereClause.Command
