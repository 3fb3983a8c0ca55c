import Mathlib.Data.List.Basic
import WhereClause.Command.Request

/-!
# Options of a command line

The arguments that are read are a sequence of options, each with its value. Main statement: a
command line that names an output is one that does not, with the option of the output put in, and
asks for the same otherwise.
-/

namespace WhereClause.Command

/-- An option is two dashes and its name; an attached value comes behind an equals sign. -/
theorem toList_of_splitOption?
    {argument text : String} {attached : Option String}
    (split : splitOption? argument = some (text, attached)) :
    argument.toList = '-' :: '-' ::
      (text.toList ++ (attached.map fun value => '=' :: value.toList).getD []) := by
  unfold splitOption? at split
  split at split
  case h_2 =>
      cases split
  case h_1 rest isRest =>
      have parts :
          rest.takeWhile (fun character => decide (character ≠ '=')) ++
            rest.dropWhile (fun character => decide (character ≠ '=')) = rest :=
        List.takeWhile_append_dropWhile
      have first := List.head?_dropWhile_not (fun character => decide (character ≠ '=')) rest
      simp only [Option.some.injEq, Prod.mk.injEq] at split
      obtain ⟨rfl, rfl⟩ := split
      rw [isRest, String.toList_ofList]
      cases behind : rest.dropWhile fun character => decide (character ≠ '=') with
      | nil =>
          rw [behind] at parts
          simpa using parts.symm
      | cons sign value =>
          rw [behind] at parts first
          have isSign : sign = '=' := by
            simpa using first
          rw [isSign] at parts
          simpa using parts.symm

theorem ne_dashes_of_ofText?
    {argument text : String} {attached : Option String} {name : OptionName}
    (split : splitOption? argument = some (text, attached))
    (named : OptionName.ofText? text = some name) : argument ≠ "--" := by
  rintro rfl
  have blank : splitOption? "--" = some ("", none) := by decide
  rw [blank] at split
  cases split
  cases named

variable {allowed : List OptionName}

/-- Whether the words are one option that is allowed and not given before, and what is given
with it. -/
inductive Gives (allowed : List OptionName) (before after : Options) : List String → Prop
  | apart {argument text value : String} {name : OptionName} :
      splitOption? argument = some (text, none) → OptionName.ofText? text = some name →
      name ∈ allowed → name.takesValue = true → isValue value = true →
      before.set? value name = some after → Gives allowed before after [argument, value]
  | attached {argument text value : String} {name : OptionName} :
      splitOption? argument = some (text, some value) → OptionName.ofText? text = some name →
      name ∈ allowed → name.takesValue = true →
      before.set? value name = some after → Gives allowed before after [argument]
  | flag {argument text : String} {name : OptionName} :
      splitOption? argument = some (text, none) → OptionName.ofText? text = some name →
      name ∈ allowed → name.takesValue = false →
      before.setFlag? name = some after → Gives allowed before after [argument]

/-- Options one after the other, up to the end of the arguments or two dashes there. -/
inductive GivesAll (allowed : List OptionName) : Options → Options → List String → Prop
  | nil (options : Options) : GivesAll allowed options options []
  | dashes (options : Options) : GivesAll allowed options options ["--"]
  | cons {before middle after : Options} {words rest : List String} :
      Gives allowed before middle words → GivesAll allowed middle after rest →
      GivesAll allowed before after (words ++ rest)

/-- Options behind one that awaits its value, if any does. -/
def GivesFrom (allowed : List OptionName) (before after : Options) (arguments : List String) :
    Option OptionName → Prop
  | none => GivesAll allowed before after arguments
  | some name => ∃ value rest middle, arguments = value :: rest ∧ isValue value = true ∧
      before.set? value name = some middle ∧ GivesAll allowed middle after rest

theorem givesFrom_of_readOptions?
    {awaiting : Option OptionName} {arguments : List String} {before after : Options}
    (read : readOptions? allowed awaiting arguments before = some after) :
    GivesFrom allowed before after arguments awaiting := by
  fun_induction readOptions? allowed awaiting arguments before with
  | case2 name value rest before isValue middle given inductionHypothesis =>
      exact ⟨value, rest, middle, rfl, isValue, given, inductionHypothesis read⟩
  | case5 =>
      cases read
      exact .nil after
  | case6 rest _ isLast =>
      cases read
      rw [List.isEmpty_iff.1 isLast]
      exact .dashes after
  | case10 argument rest before _ text name named isAllowed takes split inductionHypothesis =>
      obtain ⟨value, later, middle, rfl, isValue, given, givenLater⟩ := inductionHypothesis read
      exact .cons (.apart split named isAllowed takes isValue given) givenLater
  | case11 argument rest before _ text name named isAllowed value takes middle given split
      inductionHypothesis =>
      exact .cons (.attached split named isAllowed takes given) (inductionHypothesis read)
  | case13 argument rest before _ text name named isAllowed takes middle given split
      inductionHypothesis =>
      exact .cons (.flag split named isAllowed takes given) (inductionHypothesis read)
  | case1 | case3 | case4 | case7 | case8 | case9 | case12 | case14 | case15 | case16 =>
      cases read

theorem readOptions?_of_givesAll
    {before after : Options} {arguments : List String}
    (given : GivesAll allowed before after arguments) :
    readOptions? allowed none arguments before = some after := by
  induction given with
  | nil options =>
      rw [readOptions?]
  | dashes options =>
      simp [readOptions?]
  | cons first later inductionHypothesis =>
      cases first with
      | apart split named isAllowed takes isValue set =>
          have noDashes := ne_dashes_of_ofText? split named
          simp [readOptions?, noDashes, split, named, isAllowed, takes, isValue, set,
            inductionHypothesis]
      | attached split named isAllowed takes set =>
          have noDashes := ne_dashes_of_ofText? split named
          simp [readOptions?, noDashes, split, named, isAllowed, takes, set,
            inductionHypothesis]
      | flag split named isAllowed takes set =>
          have noDashes := ne_dashes_of_ofText? split named
          simp [readOptions?, noDashes, split, named, isAllowed, takes, set,
            inductionHypothesis]

theorem readOptions?_eq_some_iff
    {before after : Options} {arguments : List String} :
    readOptions? allowed none arguments before = some after ↔
      GivesAll allowed before after arguments :=
  ⟨givesFrom_of_readOptions?, readOptions?_of_givesAll⟩

/-! ## The option of the output -/

/-- The words that name an output: in two arguments, or in one. -/
inductive NamesOutput (path : String) : List String → Prop
  | apart : NamesOutput path ["--output", path]
  | attached : NamesOutput path ["--output=" ++ path]

namespace Options

/-- The options without that of the output. -/
def withoutOutput (options : Options) : Options :=
  { options with output := none }

theorem withoutOutput_of_output_eq_none
    {options : Options} (blank : options.output = none) : options.withoutOutput = options := by
  rw [withoutOutput, ← blank]

/-- To give one of the other options neither needs nor changes that of the output. -/
theorem set?_withoutOutput
    {before after : Options} {value : String} {name : OptionName} (other : name ≠ .output)
    (given : before.set? value name = some after) :
    after.output = before.output ∧
      before.withoutOutput.set? value name = some after.withoutOutput := by
  cases name with
  | output =>
      exact absurd rfl other
  | emptyAsTautology =>
      cases given
  | catalog | filter =>
      simp only [set?] at given ⊢
      split at given
      · cases given
      · rename_i absent
        cases given
        simp [withoutOutput, absent]

theorem setFlag?_withoutOutput
    {before after : Options} {name : OptionName} (given : before.setFlag? name = some after) :
    after.output = before.output ∧
      before.withoutOutput.setFlag? name = some after.withoutOutput := by
  cases name with
  | emptyAsTautology =>
      simp only [setFlag?] at given ⊢
      split at given
      · cases given
      · rename_i absent
        cases given
        simp [withoutOutput, absent]
  | catalog | filter | output =>
      cases given

theorem of_set?_output
    {before after : Options} {path : String} (given : before.set? path .output = some after) :
    before.output = none ∧ after = { before with output := some path } := by
  rw [set?] at given
  split at given
  · cases given
  · rename_i absent
    cases given
    exact ⟨Option.not_isSome_iff_eq_none.1 absent, rfl⟩

end Options

theorem OptionName.eq_of_ofText?_output {text : String} (named : ofText? text = some .output) :
    text = "output" := by
  by_contra isOther
  rw [ofText?, if_neg isOther] at named
  split_ifs at named <;> cases named

theorem NamesOutput.of_apart
    {argument text path : String} (split : splitOption? argument = some (text, none))
    (named : OptionName.ofText? text = some .output) : NamesOutput path [argument, path] := by
  have isArgument : argument = "--output" := by
    rw [← String.toList_inj, toList_of_splitOption? split,
      OptionName.eq_of_ofText?_output named]
    rfl
  exact isArgument ▸ .apart

theorem NamesOutput.of_attached
    {argument text path : String} (split : splitOption? argument = some (text, some path))
    (named : OptionName.ofText? text = some .output) : NamesOutput path [argument] := by
  have isArgument : argument = "--output=" ++ path := by
    rw [← String.toList_inj, toList_of_splitOption? split,
      OptionName.eq_of_ofText?_output named, String.toList_append]
    rfl
  exact isArgument ▸ .attached

/-- An option is that of the output, or it neither needs nor changes that of the output. -/
theorem Gives.output_or_other
    {before after : Options} {words : List String} (given : Gives allowed before after words) :
    (∃ path, NamesOutput path words ∧ before.output = none ∧
        after = { before with output := some path }) ∨
      (after.output = before.output ∧
        Gives allowed before.withoutOutput after.withoutOutput words) := by
  cases given with
  | @apart argument text value name split named isAllowed takes isValue set =>
      by_cases isOutput : name = .output
      · subst isOutput
        exact Or.inl ⟨value, .of_apart split named, Options.of_set?_output set⟩
      · obtain ⟨same, setOther⟩ := Options.set?_withoutOutput isOutput set
        exact Or.inr ⟨same, .apart split named isAllowed takes isValue setOther⟩
  | @attached argument text value name split named isAllowed takes set =>
      by_cases isOutput : name = .output
      · subst isOutput
        exact Or.inl ⟨value, .of_attached split named, Options.of_set?_output set⟩
      · obtain ⟨same, setOther⟩ := Options.set?_withoutOutput isOutput set
        exact Or.inr ⟨same, .attached split named isAllowed takes setOther⟩
  | flag split named isAllowed takes set =>
      obtain ⟨same, setOther⟩ := Options.setFlag?_withoutOutput set
      exact Or.inr ⟨same, .flag split named isAllowed takes setOther⟩

/-- An output that is named stays to the end, and what is read otherwise does not depend on
it. -/
theorem GivesAll.withoutOutput
    {before after : Options} {arguments : List String}
    (given : GivesAll allowed before after arguments) (named : before.output ≠ none) :
    after.output = before.output ∧
      GivesAll allowed before.withoutOutput after.withoutOutput arguments := by
  induction given with
  | nil options =>
      exact ⟨rfl, .nil _⟩
  | dashes options =>
      exact ⟨rfl, .dashes _⟩
  | cons first later inductionHypothesis =>
      rcases first.output_or_other with ⟨path, -, blank, -⟩ | ⟨same, firstOther⟩
      · exact absurd blank named
      · obtain ⟨laterSame, laterOther⟩ := inductionHypothesis (same ▸ named)
        exact ⟨laterSame.trans same, .cons firstOther laterOther⟩

/-- The option of an output that is named stands somewhere between the others, which give the
same by themselves. -/
theorem GivesAll.exists_output
    {before after : Options} {arguments : List String} {path : String}
    (given : GivesAll allowed before after arguments) (blank : before.output = none)
    (named : after.output = some path) :
    ∃ earlier words later, arguments = earlier ++ words ++ later ∧ NamesOutput path words ∧
      GivesAll allowed before after.withoutOutput (earlier ++ later) := by
  induction given with
  | nil options | dashes options =>
      rw [blank] at named
      cases named
  | @cons before middle after words rest first later inductionHypothesis =>
      rcases first.output_or_other with ⟨firstPath, isOutput, -, rfl⟩ | ⟨same, firstOther⟩
      · obtain ⟨laterSame, laterOther⟩ := later.withoutOutput (by simp)
        rw [laterSame] at named
        cases named
        rw [Options.withoutOutput, ← blank] at laterOther
        exact ⟨[], words, rest, rfl, isOutput, laterOther⟩
      · obtain ⟨earlier, outputWords, behind, rfl, isOutput, others⟩ :=
          inductionHypothesis (same.trans blank) named
        rw [Options.withoutOutput_of_output_eq_none blank,
          Options.withoutOutput_of_output_eq_none (same.trans blank)] at firstOther
        refine ⟨words ++ earlier, outputWords, behind, ?_, isOutput, ?_⟩
        · simp only [List.append_assoc]
        · rw [List.append_assoc]
          exact .cons firstOther others

namespace Request

/-- The request with its document printed. -/
def withoutOutput : Request → Request
  | .version => .version
  | .comparators => .comparators
  | .compile catalog filter emptyAsTautology _ => .compile catalog filter emptyAsTautology none
  | .render catalog filter _ => .render catalog filter none

theorem compileWith?_withoutOutput
    {options : Options} {request : Request} (formed : compileWith? options = some request) :
    request.output? = options.output ∧
      compileWith? options.withoutOutput = some request.withoutOutput := by
  unfold compileWith? at formed
  split at formed
  · rename_i catalog filter isCatalog isFilter
    cases formed
    exact ⟨rfl, by simp [compileWith?, Options.withoutOutput, isCatalog, isFilter, withoutOutput]⟩
  · cases formed

theorem renderWith?_withoutOutput
    {options : Options} {request : Request} (formed : renderWith? options = some request) :
    request.output? = options.output ∧
      renderWith? options.withoutOutput = some request.withoutOutput := by
  unfold renderWith? at formed
  split at formed
  · rename_i catalog filter isCatalog isFilter
    cases formed
    exact ⟨rfl, by simp [renderWith?, Options.withoutOutput, isCatalog, isFilter, withoutOutput]⟩
  · cases formed

/-- Where a request is formed from options in the same way with an output and without, so it is
from the arguments. -/
theorem exists_output_of_form
    {form : Options → Option Request}
    (formsAlike : ∀ options request, form options = some request →
      request.output? = options.output ∧
        form options.withoutOutput = some request.withoutOutput)
    {arguments : List String} {request : Request} {path : String}
    (formed : (readOptions? allowed none arguments Options.blank).bind form = some request)
    (named : request.output? = some path) :
    ∃ earlier words later, arguments = earlier ++ words ++ later ∧ NamesOutput path words ∧
      (readOptions? allowed none (earlier ++ later) Options.blank).bind form =
        some request.withoutOutput := by
  obtain ⟨options, read, ofOptions⟩ := Option.bind_eq_some_iff.1 formed
  obtain ⟨sameOutput, withoutOutput⟩ := formsAlike options request ofOptions
  obtain ⟨earlier, words, later, rfl, isOutput, others⟩ :=
    (readOptions?_eq_some_iff.1 read).exists_output rfl (sameOutput ▸ named)
  refine ⟨earlier, words, later, rfl, isOutput, ?_⟩
  rw [readOptions?_of_givesAll others, Option.bind_some, withoutOutput]

/-- A command line that names an output is one that does not, with the option put in. -/
theorem exists_output_of_ofArguments?
    {arguments : List String} {request : Request} {path : String}
    (accepted : ofArguments? arguments = some request) (named : request.output? = some path) :
    ∃ earlier words later, arguments = earlier ++ words ++ later ∧ NamesOutput path words ∧
      ofArguments? (earlier ++ later) = some request.withoutOutput := by
  cases arguments with
  | nil =>
      cases accepted
  | cons command rest =>
      rw [ofArguments?] at accepted
      split_ifs at accepted with asksVersion isCompile isRender isList
      · cases accepted
        cases named
      · obtain ⟨earlier, words, later, rfl, isOutput, others⟩ :=
          exists_output_of_form (fun _ _ => compileWith?_withoutOutput) accepted named
        refine ⟨command :: earlier, words, later, rfl, isOutput, ?_⟩
        rw [List.cons_append, ofArguments?, if_neg asksVersion, if_pos isCompile, others]
      · obtain ⟨earlier, words, later, rfl, isOutput, others⟩ :=
          exists_output_of_form (fun _ _ => renderWith?_withoutOutput) accepted named
        refine ⟨command :: earlier, words, later, rfl, isOutput, ?_⟩
        rw [List.cons_append, ofArguments?, if_neg asksVersion, if_neg isCompile,
          if_pos isRender, others]
      · obtain ⟨options, -, rfl⟩ := Option.map_eq_some_iff.1 accepted
        cases named

end Request

end WhereClause.Command
