import NowPlaying.CommandLine.Run
import NowPlaying.Proofs.Template.Compilation
import NowPlaying.Proofs.Text.ByteOrder

/-!
# The stages of a run

A run is a sequence of stages that is known from the request and the configuration. Each stage fails or does not, for what it finds in the files and the request alone, and says why. The run succeeds when no stage fails, and prints what the request asks for. Otherwise it ends with the failure of the first stage that fails, and nothing is printed.
-/

namespace NowPlaying.CommandLine

/-! ### Formats in use

A format is used in the same way wherever the entries come from. -/

theorem runQuery_eq_expand (config : Config) (format : String) (query : Query) :
    runQuery config (some format) query =
      (orRejected ((Engine.withLimit config.limit).expand format
        (query.context (AliasTable.configured config.aliases)))).map printLine := by
  rw [runQuery, Engine.expand]
  cases (Engine.withLimit config.limit).compile format <;> rfl

theorem runRender_eq_expand (files : Files) (config : Config) (format : String) (source : EntrySource) :
    runRender files config (some format) source =
      buildContext files source >>= fun entries =>
        (orRejected ((Engine.withLimit config.limit).expand format entries)).map printLine := rfl

/-! ### Stages -/

/-- What a format is compiled for. -/
inductive Purpose where
  | use
  | check
  | preset (name : String)

/-- How an error in a format is reported. -/
def Purpose.failure (purpose : Purpose) (format : String) (error : FormatError) : Failure :=
  match purpose with
  | .use => .rejected error
  | .check => .checked format error
  | .preset name => .preset name error

inductive Stage where
  | readConfig
  | parseConfig
  | validateConfig
  | findPreset
  /-- What is missing where there is no format comes with the stage. -/
  | requireFormat (missing : Failure)
  | readJson (path : String)
  | parseJson (path : String)
  | requireObject (path : String)
  | limitLength (purpose : Purpose) (format : String)
  | tokenize (purpose : Purpose) (format : String)
  | findHelpers (format : String)

/-- What a run starts from. -/
structure Setting where
  files : Files
  request : Request

namespace Setting

/-! ### What a run works with -/

/-- The configuration that the file says, valid or not. -/
def config (setting : Setting) : Config :=
  match setting.files setting.request.configPath with
  | .text content => (Toml.read? content >>= Config.ofEntries?).getD Config.default
  | _ => Config.default

/-- The format itself, or the format of the preset. -/
def chosen? (setting : Setting) : Option String :=
  setting.request.format.or (setting.request.preset.bind setting.config.preset?)

/-- The format that the command works with. A check may bring its own. -/
def format? (setting : Setting) : Option String :=
  match setting.request.command with
  | .check own => own.or setting.chosen?
  | _ => setting.chosen?

/-- What a JSON file says. -/
def json? (setting : Setting) (path : String) : Option Json :=
  match setting.files path with
  | .text content => Json.read? content
  | _ => none

def members (setting : Setting) (path : String) : Context :=
  match setting.json? path with
  | some (.object members) => Context.ofMembers members
  | _ => NameMap.empty

/-- The members of the JSON file, if there is one, under the assignments. -/
def entries (setting : Setting) (source : EntrySource) : Context :=
  Assignment.applyAll source.assignments ((source.json.map setting.members).getD NameMap.empty)

/-! ### Failures of single stages -/

def failure? (setting : Setting) : Stage → Option Failure
  | .readConfig =>
    match setting.files setting.request.configPath with
    | .unreadable cause => some (.configUnreadable cause)
    | _ => none
  | .parseConfig =>
    match setting.files setting.request.configPath with
    | .text content => if (Toml.read? content >>= Config.ofEntries?).isNone then some .configNotToml else none
    | _ => none
  | .validateConfig => setting.config.violation?.map .configInvalid
  | .findPreset =>
    match setting.request.format, setting.request.preset with
    | none, some name => if (setting.config.preset? name).isNone then some (.unknownPreset name) else none
    | _, _ => none
  | .requireFormat missing => if setting.format?.isNone then some missing else none
  | .readJson path =>
    match setting.files path with
    | .absent cause => some (.jsonUnreadable path cause)
    | .unreadable cause => some (.jsonUnreadable path cause)
    | .text _ => none
  | .parseJson path =>
    match setting.files path with
    | .text content => if (Json.read? content).isNone then some (.notJson path) else none
    | _ => none
  | .requireObject path =>
    match setting.json? path with
    | none => none
    | some (.object _) => none
    | some json => some (.notObject path (kindOf json))
  | .limitLength purpose format => (lengthError? setting.config.limit format).map (purpose.failure format)
  | .tokenize purpose format => (syntaxError? format).map (purpose.failure format)
  | .findHelpers format => (helperError? Registry.builtIn format).map .rejected

/-! ### Sequences of stages -/

def configStages : List Stage := [.readConfig, .parseConfig, .validateConfig]

def jsonStages (source : EntrySource) : List Stage :=
  match source.json with
  | some path => [.readJson path, .parseJson path, .requireObject path]
  | none => []

def compileStages (purpose : Purpose) (format : String) : List Stage := [.limitLength purpose format, .tokenize purpose format]

/-- A format that is used is compiled, and its helpers are looked for. -/
def useStages (setting : Setting) : List Stage :=
  match setting.format? with
  | some format => compileStages .use format ++ [.findHelpers format]
  | none => []

/-- A format that is checked is compiled, and helpers that are not there only leave a mark. -/
def checkStages (setting : Setting) : List Stage :=
  match setting.format? with
  | some format => compileStages .check format
  | none => []

/-- Every preset is compiled, in order of name. -/
def presetStages (setting : Setting) : List Stage :=
  setting.config.presets.entries.flatMap fun (name, format) => compileStages (.preset name) format

def commandStages (setting : Setting) : List Stage :=
  match setting.request.command with
  | .status _ => setting.useStages
  | .volume _ => setting.useStages
  | .position _ => setting.useStages
  | .metadata source _ => jsonStages source ++ setting.useStages
  | .render source => .requireFormat .nothingToRender :: (jsonStages source ++ setting.useStages)
  | .check _ => .requireFormat .nothingToCheck :: setting.checkStages
  | .helpers => []
  | .config _ => setting.presetStages

def stages (setting : Setting) : List Stage := configStages ++ .findPreset :: setting.commandStages

/-- The failure of the first stage that fails. -/
def firstFailure? (setting : Setting) (stages : List Stage) : Option Failure := stages.findSome? setting.failure?

/-! ### What is printed -/

/-- A query with the format, or as it is without one. -/
def answer (setting : Setting) (query : Query) : String :=
  let aliases := AliasTable.configured setting.config.aliases
  match setting.format? with
  | some format => printLine (contributions Registry.builtIn (query.context aliases) (tokensOf format))
  | none => printLine (query.defaultOutput aliases)

/-- The descriptions of tokens, and the names that are read if there are any. -/
def listTokens (registry : Registry) (tokens : List Token) : String :=
  String.join (tokens.map fun token => printLine (token.describe registry))
    ++ if (Template.namesOf tokens).isEmpty then "" else printLine ("reads: " ++ ", ".intercalate (Template.namesOf tokens))

/-- What the request asks for, where no stage fails. -/
def printed (setting : Setting) : String :=
  match setting.request.command with
  | .status reported => setting.answer (.status reported)
  | .volume level => setting.answer (.volume level)
  | .position micros => setting.answer (.position micros)
  | .metadata source keys => setting.answer (.metadata (setting.entries source) keys)
  | .render source =>
    printLine (contributions Registry.builtIn (setting.entries source) (tokensOf (setting.format?.getD "")))
  | .check _ => listTokens Registry.builtIn (tokensOf (setting.format?.getD ""))
  | .helpers => listHelpers Registry.builtIn
  | .config written =>
    if written then printLine setting.config.write
    else printLine ("Configuration at '" ++ setting.request.configPath ++ "' is valid.")

/-! ### First failures -/

variable (setting : Setting)

theorem firstFailure?_nil : setting.firstFailure? [] = none := rfl

theorem firstFailure?_cons (stage : Stage) (stages : List Stage) :
    setting.firstFailure? (stage :: stages) = (setting.failure? stage).or (setting.firstFailure? stages) :=
  findSome?_cons_eq_or setting.failure? stage stages

theorem firstFailure?_append (stages later : List Stage) :
    setting.firstFailure? (stages ++ later) = (setting.firstFailure? stages).or (setting.firstFailure? later) :=
  List.findSome?_append

theorem firstFailure?_flatMap {α : Type} (stages : α → List Stage) (steps : List α) :
    setting.firstFailure? (steps.flatMap stages) = steps.findSome? fun step => setting.firstFailure? (stages step) := by
  induction steps with
  | nil => rfl
  | cons step steps ih => rw [List.flatMap_cons, firstFailure?_append, ih, findSome?_cons_eq_or]

theorem firstFailure?_eq_none_iff {stages : List Stage} :
    setting.firstFailure? stages = none ↔ ∀ stage ∈ stages, setting.failure? stage = none :=
  List.findSome?_eq_none_iff

theorem firstFailure?_eq_some_iff {stages : List Stage} {failure : Failure} :
    setting.firstFailure? stages = some failure ↔
      ∃ before stage after, stages = before ++ stage :: after ∧ setting.failure? stage = some failure ∧
        ∀ earlier ∈ before, setting.failure? earlier = none :=
  List.findSome?_eq_some_iff

/-! ### What each part of a run does -/

theorem loadConfig_eq_unlessFailed :
    loadConfig setting.files setting.request.configPath = unlessFailed (setting.firstFailure? configStages) setting.config := by
  simp only [loadConfig, configStages, firstFailure?_cons, firstFailure?_nil, failure?, config]
  cases setting.files setting.request.configPath with
  | absent cause => rfl
  | unreadable cause => rfl
  | text content =>
    simp only [Config.read]
    cases Toml.read? content >>= Config.ofEntries? with
    | none => rfl
    | some config =>
      simp only [Option.getD_some]
      cases config.violation? <;> rfl

theorem resolveFormat_eq_unlessFailed :
    resolveFormat setting.request.format setting.request.preset setting.config =
      unlessFailed (setting.failure? .findPreset) setting.chosen? := by
  simp only [resolveFormat, failure?, chosen?]
  cases setting.request.format with
  | some format => rfl
  | none =>
    cases setting.request.preset with
    | none => rfl
    | some name =>
      simp only [Option.bind_some]
      cases setting.config.preset? name <;> rfl

theorem readJson_eq_unlessFailed (path : String) :
    readJson setting.files path =
      unlessFailed (setting.firstFailure? [.readJson path, .parseJson path, .requireObject path]) (setting.members path) := by
  simp only [readJson, firstFailure?_cons, firstFailure?_nil, failure?, members, json?]
  cases setting.files path with
  | absent cause => rfl
  | unreadable cause => rfl
  | text content =>
    simp only [contextOfJson]
    cases Json.read? content with
    | none => rfl
    | some json => cases json <;> rfl

theorem buildContext_eq_unlessFailed (source : EntrySource) :
    buildContext setting.files source = unlessFailed (setting.firstFailure? (jsonStages source)) (setting.entries source) := by
  simp only [buildContext, jsonStages, entries]
  cases source.json with
  | none => rfl
  | some path =>
    simp only [readJson_eq_unlessFailed, map_unlessFailed]
    rfl

theorem firstFailure?_compileStages (purpose : Purpose) (format : String) :
    setting.firstFailure? (compileStages purpose format) =
      ((lengthError? setting.config.limit format).or (syntaxError? format)).map (purpose.failure format) := by
  rw [compileStages, firstFailure?_cons, firstFailure?_cons, firstFailure?_nil, Option.or_none, Option.map_or]
  rfl

theorem compile_eq_unlessFailed (purpose : Purpose) (format : String) :
    (((Engine.withLimit setting.config.limit).compile format).map Template.tokens).mapError (purpose.failure format) =
      unlessFailed (setting.firstFailure? (compileStages purpose format)) (tokensOf format) := by
  rw [Engine.map_tokens_compile, mapError_unlessFailed, firstFailure?_compileStages]
  rfl

theorem orRejected_unlessFailed {α : Type} (error? : Option FormatError) (value : α) :
    orRejected (unlessFailed error? value) = unlessFailed (error?.map .rejected) value := by
  cases error? <;> rfl

theorem expand_eq_unlessFailed (format : String) (context : Context) :
    orRejected ((Engine.withLimit setting.config.limit).expand format context) =
      unlessFailed (setting.firstFailure? (compileStages .use format ++ [.findHelpers format]))
        (contributions Registry.builtIn context (tokensOf format)) := by
  rw [Engine.expand_eq_unlessFailed, orRejected_unlessFailed, Option.map_or]
  rw [firstFailure?_append, firstFailure?_compileStages, firstFailure?_cons, firstFailure?_nil, Option.or_none]
  rfl

theorem runQuery_eq_unlessFailed (query : Query) :
    runQuery setting.config setting.format? query =
      unlessFailed (setting.firstFailure? setting.useStages) (setting.answer query) := by
  rw [useStages, answer]
  cases setting.format? with
  | none => rfl
  | some format =>
    rw [runQuery_eq_expand, expand_eq_unlessFailed]
    exact map_unlessFailed printLine _ _

theorem runRender_eq_unlessFailed (source : EntrySource) :
    runRender setting.files setting.config setting.format? source =
      unlessFailed (setting.firstFailure? (.requireFormat .nothingToRender :: (jsonStages source ++ setting.useStages)))
        (printLine (contributions Registry.builtIn (setting.entries source) (tokensOf (setting.format?.getD "")))) := by
  rw [useStages, firstFailure?_cons, failure?]
  cases setting.format? with
  | none => rfl
  | some format =>
    rw [runRender_eq_expand, buildContext_eq_unlessFailed, firstFailure?_append]
    refine unlessFailed_bind_unlessFailed ?_
    rw [expand_eq_unlessFailed]
    exact map_unlessFailed printLine _ _

theorem runCheck_eq_unlessFailed :
    runCheck setting.config setting.format? =
      unlessFailed (setting.firstFailure? (.requireFormat .nothingToCheck :: setting.checkStages))
        (listTokens Registry.builtIn (tokensOf (setting.format?.getD ""))) := by
  rw [checkStages, firstFailure?_cons, failure?]
  cases setting.format? with
  | none => rfl
  | some format =>
    have hrun : runCheck setting.config (some format) =
        ((((Engine.withLimit setting.config.limit).compile format).map Template.tokens).mapError
          (Purpose.check.failure format)).map (listTokens Registry.builtIn) := by
      rw [runCheck]
      cases (Engine.withLimit setting.config.limit).compile format <;> rfl
    rw [hrun, compile_eq_unlessFailed, map_unlessFailed]
    rfl

theorem checkPresets_eq_unlessFailed :
    checkPresets setting.config = unlessFailed (setting.firstFailure? setting.presetStages) () := by
  rw [presetStages, firstFailure?_flatMap]
  refine forM_eq_unlessFailed (fun entry => ?_) _
  obtain ⟨name, format⟩ := entry
  have hcompile := setting.compile_eq_unlessFailed (.preset name) format
  simp only
  rw [← map_unlessFailed (fun _ => ()), ← hcompile]
  cases (Engine.withLimit setting.config.limit).compile format <;> rfl

theorem runConfig_eq_unlessFailed (written : Bool) :
    runConfig setting.request.configPath setting.config written =
      unlessFailed (setting.firstFailure? setting.presetStages)
        (if written then printLine setting.config.write
          else printLine ("Configuration at '" ++ setting.request.configPath ++ "' is valid.")) := by
  rw [runConfig, checkPresets_eq_unlessFailed]
  cases written <;> exact map_unlessFailed (fun _ => _) _ ()

/-! ### Runs -/

theorem chosen?_eq_format? (h : ∀ own, setting.request.command ≠ .check own) : setting.chosen? = setting.format? := by
  rw [format?]
  split
  · next own hcommand => exact absurd hcommand (h own)
  · rfl

theorem runCommand_eq_unlessFailed :
    runCommand setting.files setting.request.configPath setting.config setting.chosen? setting.request.command =
      unlessFailed (setting.firstFailure? setting.commandStages) setting.printed := by
  rw [commandStages, printed]
  cases hcommand : setting.request.command with
  | status reported =>
    rw [setting.chosen?_eq_format? (by simp [hcommand])]
    exact setting.runQuery_eq_unlessFailed (.status reported)
  | volume level =>
    rw [setting.chosen?_eq_format? (by simp [hcommand])]
    exact setting.runQuery_eq_unlessFailed (.volume level)
  | position micros =>
    rw [setting.chosen?_eq_format? (by simp [hcommand])]
    exact setting.runQuery_eq_unlessFailed (.position micros)
  | metadata source keys =>
    rw [setting.chosen?_eq_format? (by simp [hcommand]), runCommand, buildContext_eq_unlessFailed, firstFailure?_append]
    exact unlessFailed_bind_unlessFailed (setting.runQuery_eq_unlessFailed (.metadata (setting.entries source) keys))
  | render source =>
    rw [setting.chosen?_eq_format? (by simp [hcommand])]
    exact setting.runRender_eq_unlessFailed source
  | check own =>
    have hformat : (own <|> setting.chosen?) = setting.format? := by
      rw [format?, hcommand]
      cases own <;> rfl
    rw [runCommand, hformat]
    exact setting.runCheck_eq_unlessFailed
  | helpers => rfl
  | config written => exact setting.runConfig_eq_unlessFailed written

theorem run_eq_unlessFailed :
    run setting.files setting.request = unlessFailed (setting.firstFailure? setting.stages) setting.printed := by
  rw [run, loadConfig_eq_unlessFailed, stages, firstFailure?_append, firstFailure?_cons]
  refine unlessFailed_bind_unlessFailed ?_
  rw [resolveFormat_eq_unlessFailed]
  exact unlessFailed_bind_unlessFailed setting.runCommand_eq_unlessFailed

theorem outcome_eq_ofRun {args : List String} (h : Request.read args = .ok setting.request) :
    outcome setting.files args = .ofRun (unlessFailed (setting.firstFailure? setting.stages) setting.printed) := by
  rw [outcome, h, ← run_eq_unlessFailed]

theorem outcome_of_first_failure {args : List String} (h : Request.read args = .ok setting.request) {before after : List Stage}
    {stage : Stage} {failure : Failure} (hstages : setting.stages = before ++ stage :: after)
    (hfailure : setting.failure? stage = some failure) (hbefore : ∀ earlier ∈ before, setting.failure? earlier = none) :
    outcome setting.files args = ⟨1, "", failure.text⟩ := by
  have hfirst := setting.firstFailure?_eq_some_iff.mpr ⟨before, stage, after, hstages, hfailure, hbefore⟩
  rw [outcome_eq_ofRun setting h, hfirst]
  rfl

theorem failure?_findPreset {name : String} (hformat : setting.request.format = none)
    (hpreset : setting.request.preset = some name) (hnone : setting.config.preset? name = none) :
    setting.failure? .findPreset = some (.unknownPreset name) := by
  rw [failure?, hformat, hpreset]
  simp only [hnone, Option.isNone_none, if_true]

/-- A run exits with zero exactly when no stage fails, and prints what the request asks for. With the first stage that fails it exits with one, prints nothing and tells the failure of that stage. That is an unknown preset for every command, where the configuration can be used and no format is given as an option. Presets come in the order of the bytes of their names. -/
theorem outcome_eq_first_failure (args : List String) (h : Request.read args = .ok setting.request) :
    ((outcome setting.files args).exit = 0 ↔ ∀ stage ∈ setting.stages, setting.failure? stage = none) ∧
    ((∀ stage ∈ setting.stages, setting.failure? stage = none) → outcome setting.files args = ⟨0, setting.printed, ""⟩) ∧
    (∀ before stage after failure, setting.stages = before ++ stage :: after → setting.failure? stage = some failure →
      (∀ earlier ∈ before, setting.failure? earlier = none) → outcome setting.files args = ⟨1, "", failure.text⟩) ∧
    (∀ name, setting.request.format = none → setting.request.preset = some name → setting.config.preset? name = none →
      (∀ stage ∈ configStages, setting.failure? stage = none) →
        outcome setting.files args = ⟨1, "", (Failure.unknownPreset name).text⟩) ∧
    setting.config.presets.names.Pairwise fun a b => Text.utf8 a < Text.utf8 b := by
  refine ⟨?_, ?_, ?_, ?_, setting.config.presets.pairwise_utf8_names⟩
  · rw [outcome_eq_ofRun setting h, ← firstFailure?_eq_none_iff]
    cases setting.firstFailure? setting.stages <;> simp [unlessFailed, Outcome.ofRun]
  · intro hnone
    rw [outcome_eq_ofRun setting h, setting.firstFailure?_eq_none_iff.mpr hnone]
    rfl
  · intro before stage after failure hstages hfailure hbefore
    exact setting.outcome_of_first_failure h hstages hfailure hbefore
  · intro name hformat hpreset hnone hconfig
    have hfailure := setting.failure?_findPreset hformat hpreset hnone
    exact setting.outcome_of_first_failure h rfl hfailure hconfig

/-- A preset that is not there ends a check that brings its own format, and the malformed format is never looked at. -/
theorem check_without_preset_fails :
    Request.read ["check", "a)\x7b\x7b", "-p", "x"] = .ok ⟨"trackfmt.toml", none, some "x", .check (some "a)\x7b\x7b")⟩ ∧
    outcome (fun _ => .absent "") ["check", "a)\x7b\x7b", "-p", "x"] = ⟨1, "", (Failure.unknownPreset "x").text⟩ := by
  have h : Request.read ["check", "a)\x7b\x7b", "-p", "x"] =
      .ok ⟨"trackfmt.toml", none, some "x", .check (some "a)\x7b\x7b")⟩ := by
    rfl
  refine ⟨h, ?_⟩
  apply (outcome_eq_first_failure ⟨fun _ => .absent "", _⟩ _ h).2.2.1 configStages .findPreset _ _ rfl rfl
  intro earlier hearlier
  simp only [configStages, List.mem_cons, List.not_mem_nil, or_false] at hearlier
  obtain rfl | rfl | rfl := hearlier <;> rfl

end Setting

end NowPlaying.CommandLine
