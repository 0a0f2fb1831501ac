import NowPlaying.Proofs.CommandLine.Stages
import NowPlaying.Proofs.Config.RoundTrip
import NowPlaying.Proofs.Config.Validation

/-!
# Presets of a valid configuration

The presets of a configuration that can be read keep its limit, so the only thing that compiling one can find is a malformed directive, and the command that checks a configuration finds the first of them in the order of names. Where it finds none, a run with a preset comes past the configuration and the format, and what may still fail lies outside of both: the JSON file of the entries, or a helper that is not there.
-/

namespace NowPlaying.CommandLine

/-- Where the entries come from that a command is given. -/
def Command.source? : Command → Option EntrySource
  | .metadata source _ => some source
  | .render source => some source
  | _ => none

/-- The command makes its output from a format. -/
def Command.Renders : Command → Prop
  | .status _ => True
  | .volume _ => True
  | .position _ => True
  | .metadata .. => True
  | .render _ => True
  | _ => False

/-- What is wrong with the first preset that is malformed. -/
def malformedPreset? (presets : NameMap String) : Option Failure :=
  presets.entries.findSome? fun entry => (syntaxError? entry.2).map (.preset entry.1)

theorem malformedPreset?_eq_none_iff {presets : NameMap String} :
    malformedPreset? presets = none ↔
      ∀ name format, presets.get? name = some format → ∃ tokens, tokenize format = .ok tokens := by
  simp only [malformedPreset?, List.findSome?_eq_none_iff, Option.map_eq_none_iff, syntaxError?_eq_none_iff, Prod.forall,
    NameMap.get?_eq_some_iff]

/-- The first of several malformed presets is the one with the least name. -/
theorem exists_least_malformed {presets : NameMap String}
    (h : ∃ name format what, presets.get? name = some format ∧ tokenize format = .error what) :
    ∃ name format what, presets.get? name = some format ∧ tokenize format = .error what ∧
      (∀ other format' what', presets.get? other = some format' → tokenize format' = .error what' → other ≠ name →
        Text.utf8 name < Text.utf8 other) ∧
      malformedPreset? presets = some (.preset name (.malformed what)) := by
  have hsome : malformedPreset? presets ≠ none := by
    rw [ne_eq, malformedPreset?_eq_none_iff]
    intro hall
    obtain ⟨name, format, what, hpreset, hwhat⟩ := h
    obtain ⟨tokens, htokens⟩ := hall name format hpreset
    rw [hwhat] at htokens
    contradiction
  obtain ⟨failure, hfailure⟩ := Option.ne_none_iff_exists'.mp hsome
  obtain ⟨name, format, hpreset, hfound, hleast⟩ := NameMap.exists_least_of_findSome?_entries hfailure
  obtain ⟨error, herror, rfl⟩ := Option.map_eq_some_iff.mp hfound
  obtain ⟨what, hwhat, rfl⟩ := syntaxError?_eq_some_iff.mp herror
  refine ⟨name, format, what, hpreset, hwhat, fun other format' what' hother hwhat' hne => ?_, hfailure⟩
  have hmalformed : syntaxError? format' = some (.malformed what') := syntaxError?_eq_some_iff.mpr ⟨what', hwhat', rfl⟩
  refine Text.utf8_lt_of_lt (hleast other format' hother ?_ hne)
  rw [hmalformed]
  exact Option.some_ne_none _

namespace Setting

variable (setting : Setting) {text : String} {config : Config}

/-! ### From the configuration to the command -/

theorem config_of_read (hfile : setting.files setting.request.configPath = .text text) (h : Config.read text = .ok config) :
    setting.firstFailure? configStages = none ∧ setting.config = config := by
  have hload : loadConfig setting.files setting.request.configPath = .ok config := by
    rw [loadConfig, hfile]
    simp only [h]
  rw [loadConfig_eq_unlessFailed, unlessFailed_eq_ok_iff] at hload
  exact ⟨hload.1, hload.2.symm⟩

theorem firstFailure?_stages (hconfig : setting.firstFailure? configStages = none)
    (hpreset : setting.failure? .findPreset = none) :
    setting.firstFailure? setting.stages = setting.firstFailure? setting.commandStages := by
  rw [stages, firstFailure?_append, firstFailure?_cons, hconfig, hpreset, Option.none_or, Option.none_or]

theorem exit_outcome_eq_zero_iff {args : List String} (h : Request.read args = .ok setting.request) :
    (outcome setting.files args).exit = 0 ↔ setting.firstFailure? setting.stages = none := by
  rw [outcome_eq_ofRun setting h]
  cases setting.firstFailure? setting.stages <;> simp [unlessFailed, Outcome.ofRun]

theorem outcome_of_firstFailure? {args : List String} (h : Request.read args = .ok setting.request) {failure : Failure}
    (hfirst : setting.firstFailure? setting.stages = some failure) :
    outcome setting.files args = ⟨1, "", failure.text⟩ := by
  rw [outcome_eq_ofRun setting h, hfirst]
  rfl

/-! ### The check of a configuration -/

theorem firstFailure?_compileStages_of_fits {format : String} (hfits : lengthError? setting.config.limit format = none)
    (purpose : Purpose) :
    setting.firstFailure? (compileStages purpose format) = (syntaxError? format).map (purpose.failure format) := by
  rw [firstFailure?_compileStages, hfits, Option.none_or]

theorem firstFailure?_presetStages
    (hfits : ∀ name format, setting.config.preset? name = some format → lengthError? setting.config.limit format = none) :
    setting.firstFailure? setting.presetStages = malformedPreset? setting.config.presets := by
  rw [presetStages, firstFailure?_flatMap]
  refine findSome?_congr fun entry hmem => ?_
  exact setting.firstFailure?_compileStages_of_fits (hfits entry.1 entry.2 (NameMap.get?_eq_some_iff.mpr hmem)) _

/-! ### Commands with a preset -/

theorem chosen?_of_preset {name format : String} (hformat : setting.request.format = none)
    (hpreset : setting.request.preset = some name) (hfound : setting.config.preset? name = some format) :
    setting.chosen? = some format ∧ setting.failure? .findPreset = none := by
  rw [chosen?, failure?, hformat, hpreset]
  simp [hfound]

theorem firstFailure?_commandStages_of_check {own : Option String} {format : String}
    (hcommand : setting.request.command = .check own) (hformat : setting.format? = some format) :
    setting.firstFailure? setting.commandStages = setting.firstFailure? (compileStages .check format) := by
  have hrequired : setting.failure? (.requireFormat .nothingToCheck) = none := by
    rw [failure?, hformat]
    rfl
  rw [commandStages, hcommand]
  simp only
  rw [firstFailure?_cons, hrequired, Option.none_or, checkStages, hformat]

theorem firstFailure?_commandStages_of_renders {format : String} (hrenders : setting.request.command.Renders)
    (hchosen : setting.chosen? = some format) (hcompiles : setting.firstFailure? (compileStages .use format) = none) :
    setting.firstFailure? setting.commandStages =
      (setting.firstFailure? ((setting.request.command.source?.map jsonStages).getD [])).or
        ((helperError? Registry.builtIn format).map .rejected) := by
  have hnoCheck : ∀ own, setting.request.command ≠ .check own := by
    intro own hcommand
    rw [hcommand] at hrenders
    exact hrenders
  have hformat : setting.format? = some format := by rw [← setting.chosen?_eq_format? hnoCheck, hchosen]
  have huse : setting.firstFailure? setting.useStages = (helperError? Registry.builtIn format).map .rejected := by
    rw [useStages, hformat]
    simp only
    rw [firstFailure?_append, hcompiles, Option.none_or, firstFailure?_cons, firstFailure?_nil, Option.or_none]
    rfl
  have hrequired : setting.failure? (.requireFormat .nothingToRender) = none := by
    rw [failure?, hformat]
    rfl
  rw [commandStages]
  cases hcommand : setting.request.command with
  | status reported => exact huse
  | volume level => exact huse
  | position micros => exact huse
  | metadata source keys =>
    simp only
    rw [firstFailure?_append, huse]
    rfl
  | render source =>
    simp only
    rw [firstFailure?_cons, hrequired, Option.none_or, firstFailure?_append, huse]
    rfl
  | check own => exact absurd hcommand (hnoCheck own)
  | helpers => rw [hcommand] at hrenders; exact hrenders.elim
  | config written => rw [hcommand] at hrenders; exact hrenders.elim

/-- Past the compiling, only the entries and the helpers are left to fail. -/
theorem failure_of_renders {format : String} {failure : Failure} (hrenders : setting.request.command.Renders)
    (hchosen : setting.chosen? = some format) (hcompiles : setting.firstFailure? (compileStages .use format) = none)
    (hfirst : setting.firstFailure? setting.commandStages = some failure) :
    (∃ source, setting.request.command.source? = some source ∧ buildContext setting.files source = .error failure) ∨
      ∃ helper, failure = .rejected (.unknownHelper helper) := by
  rw [setting.firstFailure?_commandStages_of_renders hrenders hchosen hcompiles, Option.or_eq_some_iff] at hfirst
  obtain hentries | ⟨-, hhelper⟩ := hfirst
  · left
    cases hsource : setting.request.command.source? with
    | none =>
      rw [hsource, Option.map_none, Option.getD_none, firstFailure?_nil] at hentries
      contradiction
    | some source =>
      rw [hsource, Option.map_some, Option.getD_some] at hentries
      refine ⟨source, rfl, ?_⟩
      rw [buildContext_eq_unlessFailed, hentries, unlessFailed_some]
  · right
    obtain ⟨error, herror, rfl⟩ := Option.map_eq_some_iff.mp hhelper
    obtain ⟨helper, -, rfl⟩ := Option.map_eq_some_iff.mp herror
    exact ⟨helper, rfl⟩

end Setting

/-! ### From the text of a configuration -/

section

variable {text : String} {config : Config}

theorem lengthError?_of_read (h : Config.read text = .ok config) {name format : String}
    (hpreset : config.preset? name = some format) : lengthError? config.limit format = none :=
  Config.lengthError?_of_valid (Config.read_eq_ok_iff.mp h).2 hpreset

theorem compile_of_read (h : Config.read text = .ok config) {name format : String}
    (hpreset : config.preset? name = some format) : (Engine.withLimit config.limit).compile format = Template.parse format :=
  Engine.compile_eq_parse (lengthError?_of_read h hpreset)

/-- The check of a configuration looks for malformed presets, one after the other, and for nothing else. -/
theorem firstFailure?_of_checkConfig (h : Config.read text = .ok config) {files : Files} {path : String}
    (hfile : files path = .text text) (written : Bool) :
    let setting : Setting := ⟨files, path, none, none, .config written⟩
    setting.firstFailure? setting.stages = malformedPreset? config.presets := by
  intro setting
  obtain ⟨hconfig, hsame⟩ := setting.config_of_read hfile h
  rw [setting.firstFailure?_stages hconfig rfl, ← hsame]
  refine setting.firstFailure?_presetStages fun name format hpreset => ?_
  rw [hsame] at hpreset ⊢
  exact lengthError?_of_read h hpreset

/-- What a run with a preset that is not malformed may still fail at. -/
theorem outcome_of_preset (h : Config.read text = .ok config) {name format : String}
    (hpreset : config.preset? name = some format) (htokens : ∃ tokens, tokenize format = .ok tokens) {files : Files}
    {args : List String} {path : String} {command : Command} (hfile : files path = .text text)
    (hargs : Request.read args = .ok ⟨path, none, some name, command⟩) :
    (command = .check none → (outcome files args).exit = 0) ∧
      (command.Renders → (outcome files args).exit = 0 ∨ ∃ failure, outcome files args = ⟨1, "", failure.text⟩ ∧
        ((∃ source, command.source? = some source ∧ buildContext files source = .error failure) ∨
          ∃ helper, failure = .rejected (.unknownHelper helper))) := by
  let setting : Setting := ⟨files, path, none, some name, command⟩
  obtain ⟨hconfig, hsame⟩ := setting.config_of_read hfile h
  have hfound : setting.config.preset? name = some format := by rwa [hsame]
  obtain ⟨hchosen, hfindPreset⟩ := setting.chosen?_of_preset rfl rfl hfound
  have hfits : lengthError? setting.config.limit format = none := by
    rw [hsame]
    exact lengthError?_of_read h hpreset
  have hcompiles (purpose : Purpose) : setting.firstFailure? (Setting.compileStages purpose format) = none := by
    rw [setting.firstFailure?_compileStages_of_fits hfits, syntaxError?_eq_none_iff.mpr htokens, Option.map_none]
  have hstages := setting.firstFailure?_stages hconfig hfindPreset
  constructor
  · rintro rfl
    rw [setting.firstFailure?_commandStages_of_check rfl hchosen, hcompiles .check] at hstages
    exact (setting.exit_outcome_eq_zero_iff hargs).mpr hstages
  · intro hrenders
    cases hfirst : setting.firstFailure? setting.stages with
    | none => exact .inl ((setting.exit_outcome_eq_zero_iff hargs).mpr hfirst)
    | some failure =>
      refine .inr ⟨failure, setting.outcome_of_firstFailure? hargs hfirst, ?_⟩
      rw [hstages] at hfirst
      exact setting.failure_of_renders hrenders hchosen (hcompiles .use) hfirst

/-- A preset of a configuration that can be read compiles under the limit as it does without one. Checking the configuration succeeds exactly when no preset is malformed, and otherwise tells the malformed one whose name is the least by its bytes. Where it succeeds, a check of any preset succeeds, and a query or a rendering with it fails only for its entries or for a helper that is not there. -/
theorem presets_of_read (h : Config.read text = .ok config) :
    (∀ name format, config.preset? name = some format →
      (Engine.withLimit config.limit).compile format = (Engine.withLimit none).compile format ∧
      ∀ length limit, (Engine.withLimit config.limit).compile format ≠ .error (.tooLong length limit)) ∧
    ∀ (files : Files) args path, files path = .text text → Request.read args = .ok ⟨path, none, none, .config false⟩ →
      ((outcome files args).exit = 0 ↔
        ∀ name format, config.preset? name = some format → ∃ tokens, tokenize format = .ok tokens) ∧
      ((∃ name format what, config.preset? name = some format ∧ tokenize format = .error what) →
        ∃ name format what, config.preset? name = some format ∧ tokenize format = .error what ∧
          (∀ other format' what', config.preset? other = some format' → tokenize format' = .error what' → other ≠ name →
            Text.utf8 name < Text.utf8 other) ∧
          outcome files args = ⟨1, "", (Failure.preset name (.malformed what)).text⟩) ∧
      ((outcome files args).exit = 0 → ∀ name format (files' : Files) args' path' command,
        config.preset? name = some format → files' path' = .text text →
        Request.read args' = .ok ⟨path', none, some name, command⟩ →
          (command = .check none → (outcome files' args').exit = 0) ∧
          (command.Renders → (outcome files' args').exit = 0 ∨ ∃ failure, outcome files' args' = ⟨1, "", failure.text⟩ ∧
            ((∃ source, command.source? = some source ∧ buildContext files' source = .error failure) ∨
              ∃ helper, failure = .rejected (.unknownHelper helper)))) := by
  refine ⟨fun name format hpreset => ?_, fun files args path hfile hargs => ?_⟩
  · rw [compile_of_read h hpreset]
    exact ⟨rfl, Template.parse_ne_tooLong format⟩
  · let setting : Setting := ⟨files, path, none, none, .config false⟩
    have hfirst : setting.firstFailure? setting.stages = malformedPreset? config.presets :=
      firstFailure?_of_checkConfig h hfile false
    have hexit : (outcome files args).exit = 0 ↔
        ∀ name format, config.preset? name = some format → ∃ tokens, tokenize format = .ok tokens := by
      rw [setting.exit_outcome_eq_zero_iff hargs, hfirst, malformedPreset?_eq_none_iff]
      rfl
    refine ⟨hexit, fun hmalformed => ?_, fun hok name format files' args' path' command hpreset hfile' hargs' => ?_⟩
    · obtain ⟨name, format, what, hpreset, hwhat, hleast, hfound⟩ := exists_least_malformed hmalformed
      exact ⟨name, format, what, hpreset, hwhat, hleast, setting.outcome_of_firstFailure? hargs (hfirst.trans hfound)⟩
    · exact outcome_of_preset h hpreset (hexit.mp hok name format hpreset) hfile' hargs'

/-- The preset has as many bytes as the limit allows, and calls a helper that does not exist. -/
theorem presets_of_read_at_limit :
    ∃ text config, Config.read text = .ok config ∧ config.limit = some 10 ∧
      (outcome (fun _ => .text text) ["config"]).exit = 0 ∧
      (outcome (fun _ => .text text) ["check", "-p", "é"]).exit = 0 := by
  let config : Config := ⟨some 10, "info", NameMap.empty, NameMap.ofList [("é", "\x7b\x7bé(é)\x7d\x7d")]⟩
  have hread : Config.read "format.max_length = 10\npresets.'é' = '\x7b\x7bé(é)\x7d\x7d'\n" = .ok config := by decide +kernel
  have hconfig : Request.read ["config"] = .ok ⟨"trackfmt.toml", none, none, .config false⟩ := by rfl
  have hcheck : Request.read ["check", "-p", "é"] = .ok ⟨"trackfmt.toml", none, some "é", .check none⟩ := by rfl
  have hpreset {name format : String} (h : config.preset? name = some format) : format = "\x7b\x7bé(é)\x7d\x7d" := by
    have hmem : (name, format) ∈ [("é", "\x7b\x7bé(é)\x7d\x7d")] := NameMap.get?_eq_some_iff.mp h
    exact (Prod.mk.inj (List.mem_singleton.mp hmem)).2
  have htokens : tokenize "\x7b\x7bé(é)\x7d\x7d" = .ok [.call "é" "é"] := by decide +kernel
  obtain ⟨hexit, -, huse⟩ := (presets_of_read hread).2 (fun _ => .text _) _ _ rfl hconfig
  have hok := hexit.mpr fun name format h => ⟨_, hpreset h ▸ htokens⟩
  exact ⟨_, config, hread, rfl, hok, (huse hok "é" _ (fun _ => .text _) _ _ _ rfl rfl hcheck).1 rfl⟩

end

end NowPlaying.CommandLine
