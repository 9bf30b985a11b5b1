import ConfigGate.Command.Check
import ConfigGate.Proofs.Host.Checking

/-!
# What a run of the checks comes to

A run reads its settings and its schema, draws a conclusion from them, and saves its files one after
the other. The first thing that does not work ends it. `World.Fails` lists what that can be, each
with the texts that tell of it, from what was tried to the innermost cause.

Results:
1. `attempt_attemptCheck`: a run concludes from a world that it leaves as it is, then saves;
2. `concluded_eq_ok_iff`: when there is something to conclude, and what;
3. `fails_iff`: a run ends in an error exactly when it fails, and the error has the texts of that.
-/

namespace ConfigGate

open World

/-! ## The texts of errors -/

/-- `error.Told texts`: what is told of settings that cannot be resolved. -/
inductive SettingsError.Told : SettingsError → List String → Prop
  | unknownProfile (profile : String) : Told (.unknownProfile profile)
      ["unknown profile: " ++ profile ++ " (expected 'strict' or 'warn')"]
  | unknownSeverity (checkId word : String) : Told (.unknownSeverity checkId word)
      ["invalid severity for " ++ checkId,
        "unknown severity: " ++ word ++ " (expected info|warning|error)"]
  | unknownThreshold (word : String) : Told (.unknownThreshold word)
      ["unknown fail_on: " ++ word ++ " (expected error|warning)"]
  | blankVariable : Told .blankVariable ["execution_env_var must not be empty"]

/-- `error.Told texts`: what is told of a schema that cannot be loaded. The cause is told twice
where it is also part of the first text. -/
inductive SchemaError.Told : SchemaError → List String → Prop
  | unreadable (path cause : String) : Told (.unreadable path cause)
      ["failed to read schema " ++ path ++ ": " ++ cause, cause]
  | notYaml (cause : String) : Told (.notYaml cause) ["invalid schema YAML: " ++ cause, cause]
  | invalidKey (key : String) : Told (.invalidKey key)
      ["invalid config key '" ++ key ++ "': expected dot-separated identifiers"]
  | reservedKey (key : String) : Told (.reservedKey key)
      ["config key '" ++ key ++ "' is reserved for the execution environment"]
  | emptyEnum (key : String) : Told (.emptyEnum key) ["enum key '" ++ key ++ "' declares no values"]
  | invalidInvariantName (name : String) : Told (.invalidInvariantName name)
      ["invalid invariant name '" ++ name ++ "': expected [A-Za-z0-9_-]+"]
  | duplicateInvariant (name : String) : Told (.duplicateInvariant name)
      ["duplicate invariant name '" ++ name ++ "'"]
  | rule (name : String) (cause : Rule.RuleError) : Told (.rule name cause)
      ["invariant '" ++ name ++ "': " ++ cause.message, cause.message]
  | unknownContractKey (environment key : String) : Told (.unknownContractKey environment key)
      ["environment '" ++ environment ++ "' constrains undeclared key '" ++ key ++ "'"]

/-- `error.Told texts`: what is told of a file that cannot be saved. -/
inductive SaveError.Told : SaveError → List String → Prop
  | directory (path : String) (cause : FileFault) : Told (.directory path cause)
      ["create directory: " ++ path, cause.message]
  | file (path : String) (cause : FileFault) : Told (.file path cause)
      ["write file: " ++ path, cause.message]

theorem SettingsError.told_iff {error : SettingsError} {texts : List String} :
    error.Told texts ↔ error.chain = texts := by
  constructor
  · rintro ⟨⟩ <;> rfl
  · rintro rfl
    cases error <;> constructor

theorem SchemaError.told_iff {error : SchemaError} {texts : List String} :
    error.Told texts ↔ error.chain = texts := by
  constructor
  · rintro ⟨⟩ <;> rfl
  · rintro rfl
    cases error <;> constructor

theorem SaveError.told_iff {error : SaveError} {texts : List String} :
    error.Told texts ↔ error.failure.attempt :: error.failure.causes = texts := by
  constructor
  · rintro ⟨⟩ <;> rfl
  · rintro rfl
    cases error <;> constructor

/-- The texts of a failure, from what was tried to the innermost cause. -/
def Failure.texts (failure : Failure) : List String := failure.attempt :: failure.causes

namespace Command

/-! ## Saving the files of a run -/

/-- A file that a run saves, with what is tried by saving it. -/
structure OutputFile where
  attempt : String
  path : String
  text : String

/-- The files of a run in the order in which they are saved. -/
def outputFiles (options : CheckOptions) (outcome : RunOutcome) : List OutputFile :=
  [⟨"write report json", options.reportOut, outcome.report.text⟩] ++
    (if options.writeMarkdown then
      [⟨"write markdown", options.markdownOut, outcome.report.view.markdown⟩] else []) ++
    (match options.snapshotOut with
      | none => []
      | some path => [⟨"write config snapshot", path, outcome.snapshot.text⟩])

/-- Saves files one after the other until one cannot be saved. -/
def saveAll (directory : Place) : List OutputFile → FileTree → Except RunError Unit × FileTree
  | [], tree => (.ok (), tree)
  | file :: rest, tree =>
      match tree.save directory file.path file.text with
      | (.error cause, after) => (.error (.saving file.attempt cause), after)
      | (.ok (), after) => saveAll directory rest after

/-- `StopsAt directory tree files attempt cause`: saving the files one after the other stops at one
that cannot be saved. -/
inductive StopsAt (directory : Place) :
    FileTree → List OutputFile → String → SaveError → Prop
  | here {tree : FileTree} {file : OutputFile} {rest : List OutputFile} {cause : SaveError} :
      (tree.save directory file.path file.text).1 = .error cause →
      StopsAt directory tree (file :: rest) file.attempt cause
  | later {tree : FileTree} {file : OutputFile} {rest : List OutputFile} {attempt : String}
      {cause : SaveError} :
      (tree.save directory file.path file.text).1 = .ok () →
      StopsAt directory (tree.save directory file.path file.text).2 rest attempt cause →
      StopsAt directory tree (file :: rest) attempt cause

theorem saveAll_eq_error_iff {directory : Place} {files : List OutputFile} {tree : FileTree}
    {error : RunError} :
    (saveAll directory files tree).1 = .error error ↔
      ∃ attempt cause, StopsAt directory tree files attempt cause ∧
        error = .saving attempt cause := by
  induction files generalizing tree with
  | nil =>
      refine ⟨nofun, ?_⟩
      rintro ⟨_, _, ⟨⟩, -⟩
  | cons file rest ih =>
      rw [saveAll]
      rcases saved : tree.save directory file.path file.text with ⟨cause | ⟨⟩, after⟩
      · constructor
        · rintro ⟨⟩
          exact ⟨file.attempt, cause, .here (by rw [saved]), rfl⟩
        · rintro ⟨attempt, other, failed | ⟨worked, -⟩, rfl⟩
          · rw [saved] at failed
            rw [Except.error.inj failed]
          · rw [saved] at worked
            exact nomatch worked
      · simp only [ih]
        constructor
        · rintro ⟨attempt, cause, stops, rfl⟩
          exact ⟨attempt, cause, .later (by rw [saved]) (by rwa [saved]), rfl⟩
        · rintro ⟨attempt, cause, failed | ⟨-, stops⟩, rfl⟩
          · rw [saved] at failed
            exact nomatch failed
          · rw [saved] at stops
            exact ⟨attempt, cause, stops, rfl⟩

/-! ## How a run ends -/

/-- `SettingsAre world path settings`: this is what the settings file says, which may be missing or
hold nothing but blanks. -/
inductive SettingsAre (world : World) (path : String) : Settings → Prop
  | absent : world.files.isPresent world.directory path = false → SettingsAre world path .empty
  | blank {text : String} : world.files.read world.directory path = .ok text →
      (∀ c ∈ text.toList, Text.isBlank c = true) → SettingsAre world path .empty
  | given {text : String} {settings : Settings} :
      world.files.read world.directory path = .ok text →
      (∃ c ∈ text.toList, Text.isBlank c = false) → Settings.read text = some settings →
      SettingsAre world path settings

/-- `Settled world common resolved`: the settings can be resolved, to this. -/
def Settled (world : World) (common : CommonOptions) (resolved : Resolved) : Prop :=
  ∃ settings, SettingsAre world common.settings settings ∧
    settings.resolve common.overrides = .ok resolved

/-- `Concludes world common outcome`: the settings can be resolved, the schema is loaded, and this
is what follows for the variables of the world. -/
def Concludes (world : World) (common : CommonOptions) (outcome : RunOutcome) : Prop :=
  ∃ resolved text document schema, Settled world common resolved ∧
    world.files.read world.directory common.schema = .ok text ∧
    Document.read text = some document ∧ Schema.ofDocument document = .ok schema ∧
    outcome = Run.conclude common.schema schema resolved world.vars world.now world.now

/-- `Fails world common options texts`: there is something that does not work, and these texts tell
of it. -/
inductive Fails (world : World) (common : CommonOptions) (options : CheckOptions) :
    List String → Prop
  | settingsFile {fault : FileFault} :
      world.files.isPresent world.directory common.settings = true →
      world.files.read world.directory common.settings = .error fault →
      Fails world common options ["read config: " ++ common.settings, fault.message]
  | settingsText {text : String} :
      world.files.read world.directory common.settings = .ok text →
      (∃ c ∈ text.toList, Text.isBlank c = false) → Settings.read text = none →
      Fails world common options ["parse config", world.wording.settings text]
  | settings {settings : Settings} {error : SettingsError} {texts : List String} :
      SettingsAre world common.settings settings →
      settings.resolve common.overrides = .error error → error.Told texts →
      Fails world common options ("resolve config" :: texts)
  | schemaFile {resolved : Resolved} {fault : FileFault} : Settled world common resolved →
      world.files.read world.directory common.schema = .error fault →
      Fails world common options
        ["load schema", "failed to read schema " ++ common.schema ++ ": " ++ fault.message,
          fault.message]
  | schemaText {resolved : Resolved} {text : String} : Settled world common resolved →
      world.files.read world.directory common.schema = .ok text → Document.read text = none →
      Fails world common options
        ["load schema", "invalid schema YAML: " ++ world.wording.schema text,
          world.wording.schema text]
  | schema {resolved : Resolved} {text : String} {document : Document} {error : SchemaError}
      {texts : List String} : Settled world common resolved →
      world.files.read world.directory common.schema = .ok text →
      Document.read text = some document → Schema.ofDocument document = .error error →
      error.Told texts → Fails world common options ("load schema" :: texts)
  | saving {outcome : RunOutcome} {attempt : String} {cause : SaveError} {texts : List String} :
      Concludes world common outcome →
      StopsAt world.directory world.files (outputFiles options outcome) attempt cause →
      cause.Told texts → Fails world common options (attempt :: texts)

/-! ## What a run reads -/

/-- The text of the settings in a world. -/
def settingsTextAt (world : World) (path : String) : Except RunError String :=
  if world.files.isPresent world.directory path then
    (world.files.read world.directory path).mapError (RunError.settingsFile path)
  else .ok ""

/-- The settings in a world. -/
def settingsAt (world : World) (path : String) : Except RunError Settings := do
  let text ← settingsTextAt world path
  if Text.isBlankText text then .ok .empty
  else
    match Settings.read text with
    | none => .error (.settingsText (world.wording.settings text))
    | some settings => .ok settings

/-- What is concluded from a world. -/
def concluded (world : World) (common : CommonOptions) : Except RunError RunOutcome := do
  let settings ← settingsAt world common.settings
  let resolved ← (settings.resolve common.overrides).mapError RunError.settings
  let schema ← (world.schemaAt common.schema).mapError RunError.schema
  pure (Run.conclude common.schema schema resolved world.vars world.now world.now)

theorem checked_settingsTextAt (world : World) (common : CommonOptions) :
    (settingsTextAt world common.settings >>= fun text =>
      world.checked common.schema text common.overrides) = concluded world common := by
  unfold concluded settingsAt checked Run.resolveText
  cases settingsTextAt world common.settings with
  | error error => rfl
  | ok text =>
      dsimp only [Bind.bind, Except.bind]
      cases Text.isBlankText text with
      | true => rfl
      | false => cases Settings.read text <;> rfl

theorem attempt_settingsText (world : World) (path : String) :
    attempt (settingsText World.host path) world = (settingsTextAt world path, world) := by
  have present : (World.host.isPresent path world) =
    (world.files.isPresent world.directory path, world) := rfl
  unfold settingsText attempt settingsTextAt
  rw [ExceptT.run_mk, bind_apply, present]
  cases world.files.isPresent world.directory path <;> rfl

theorem attempt_saveAs (world : World) (attempted path text : String) :
    attempt (saveAs World.host attempted path text) world =
      ((world.files.save world.directory path text).1.mapError (.saving attempted),
        { world with files := (world.files.save world.directory path text).2 }) := by
  rw [saveAs, attempt_adapt, attempt_save]

/-- `Saves program files value`: the program saves the files and, unless that fails, gives the
value. -/
def Saves {α : Type} (program : ExceptT RunError (StateM World) α) (files : List OutputFile)
    (value : α) : Prop :=
  ∀ world, attempt program world =
    ((saveAll world.directory files world.files).1.map fun _ => value,
      { world with files := (saveAll world.directory files world.files).2 })

theorem saves_pure {α : Type} (value : α) : Saves (pure value) [] value :=
  fun _ => rfl

theorem Saves.cons {α : Type} {program : ExceptT RunError (StateM World) α}
    {files : List OutputFile} {value : α} (rest : Saves program files value) (file : OutputFile) :
    Saves (saveAs World.host file.attempt file.path file.text >>= fun _ => program)
      (file :: files) value := by
  intro world
  rw [attempt_bind, attempt_saveAs, saveAll]
  rcases world.files.save world.directory file.path file.text with ⟨cause | ⟨⟩, after⟩
  · rfl
  · exact rest { world with files := after }

/-- What a run does once there is a conclusion. -/
theorem saves_outputFiles (options : CheckOptions) (outcome : RunOutcome) :
    Saves (do
        saveAs World.host "write report json" options.reportOut outcome.report.text
        if options.writeMarkdown then
          saveAs World.host "write markdown" options.markdownOut outcome.report.view.markdown
        match options.snapshotOut with
        | none => pure ()
        | some path => saveAs World.host "write config snapshot" path outcome.snapshot.text
        pure (outcome.report.verdict, checkOutput options outcome.report.view))
      (outputFiles options outcome)
      (outcome.report.verdict, checkOutput options outcome.report.view) := by
  have shown := saves_pure (outcome.report.verdict, checkOutput options outcome.report.view)
  unfold outputFiles
  cases options.writeMarkdown <;> cases options.snapshotOut
  case false.none => exact shown.cons ⟨_, _, _⟩
  case false.some => exact (shown.cons ⟨_, _, _⟩).cons ⟨_, _, _⟩
  case true.none => exact (shown.cons ⟨_, _, _⟩).cons ⟨_, _, _⟩
  case true.some => exact ((shown.cons ⟨_, _, _⟩).cons ⟨_, _, _⟩).cons ⟨_, _, _⟩

/-- Once there is a conclusion its files are saved, and then there is its verdict and what is to be
shown. -/
theorem attempt_attemptCheck (world : World) (common : CommonOptions) (options : CheckOptions) :
    attempt (attemptCheck World.host common options) world =
      match concluded world common with
      | .error error => (.error error, world)
      | .ok outcome =>
          ((saveAll world.directory (outputFiles options outcome) world.files).1.map fun _ =>
              (outcome.report.verdict, checkOutput options outcome.report.view),
            { world with files :=
                (saveAll world.directory (outputFiles options outcome) world.files).2 }) := by
  rw [← checked_settingsTextAt]
  unfold attemptCheck
  rw [attempt_bind, attempt_settingsText]
  cases settingsTextAt world common.settings with
  | error error => rfl
  | ok text =>
      have goesOn : (Except.ok text >>= fun text =>
        world.checked common.schema text common.overrides) =
          world.checked common.schema text common.overrides := rfl
      simp only
      rw [attempt_bind, attempt_check, goesOn]
      cases world.checked common.schema text common.overrides with
      | error error => rfl
      | ok outcome => exact saves_outputFiles options outcome world

/-! ## The ways to end -/

theorem not_isBlankText_iff {text : String} :
    Text.isBlankText text = false ↔ ∃ c ∈ text.toList, Text.isBlank c = false := by
  simp [Text.isBlankText]

theorem isPresent_of_read {tree : FileTree} {directory : Place} {path text : String}
    (found : tree.read directory path = .ok text) : tree.isPresent directory path = true := by
  rw [FileTree.isPresent, found]

variable {world : World} {common : CommonOptions} {options : CheckOptions}

theorem settingsTextAt_of_read {path text : String}
    (found : world.files.read world.directory path = .ok text) :
    settingsTextAt world path = .ok text := by
  rw [settingsTextAt, if_pos (isPresent_of_read found), found]
  rfl

theorem settingsAt_of_settingsAre {path : String} {settings : Settings}
    (are : SettingsAre world path settings) : settingsAt world path = .ok settings := by
  unfold settingsAt
  cases are with
  | absent absent =>
      rw [settingsTextAt, absent]
      rfl
  | blank found blank =>
      rw [settingsTextAt_of_read found]
      exact if_pos (Text.isBlankText_iff.mpr blank)
  | given found visible read =>
      rw [settingsTextAt_of_read found]
      show (if Text.isBlankText _ then _ else _) = _
      rw [not_isBlankText_iff.mpr visible, read]
      rfl

theorem settingsAt_of_lost {path : String} {fault : FileFault}
    (present : world.files.isPresent world.directory path = true)
    (lost : world.files.read world.directory path = .error fault) :
    settingsAt world path = .error (.settingsFile path fault) := by
  rw [settingsAt, settingsTextAt, if_pos present, lost]
  rfl

theorem settingsAt_of_unread {path text : String}
    (found : world.files.read world.directory path = .ok text)
    (visible : ∃ c ∈ text.toList, Text.isBlank c = false) (unread : Settings.read text = none) :
    settingsAt world path = .error (.settingsText (world.wording.settings text)) := by
  rw [settingsAt, settingsTextAt_of_read found]
  show (if Text.isBlankText text then _ else _) = _
  rw [not_isBlankText_iff.mpr visible, unread]
  rfl

/-- The settings in a world are something, or a run fails for them. -/
theorem settingsAt_cases (world : World) (common : CommonOptions) (options : CheckOptions) :
    (∃ settings, SettingsAre world common.settings settings) ∨
      ∃ error, settingsAt world common.settings = .error error ∧
        Fails world common options error.failure.texts := by
  cases present : world.files.isPresent world.directory common.settings with
  | false => exact .inl ⟨.empty, .absent present⟩
  | true =>
      cases found : world.files.read world.directory common.settings with
      | error fault =>
          exact .inr ⟨_, settingsAt_of_lost present found, .settingsFile present found⟩
      | ok text =>
          cases blank : Text.isBlankText text with
          | true => exact .inl ⟨.empty, .blank found (Text.isBlankText_iff.mp blank)⟩
          | false =>
              have visible := not_isBlankText_iff.mp blank
              cases read : Settings.read text with
              | none =>
                  exact .inr ⟨_, settingsAt_of_unread found visible read,
                    .settingsText found visible read⟩
              | some settings => exact .inl ⟨settings, .given found visible read⟩

theorem concluded_of_settingsAt {error : RunError}
    (failed : settingsAt world common.settings = .error error) :
    concluded world common = .error error := by
  rw [concluded, failed]
  rfl

theorem concluded_of_settingsAre {settings : Settings} {cause : SettingsError}
    (are : SettingsAre world common.settings settings)
    (refused : settings.resolve common.overrides = .error cause) :
    concluded world common = .error (.settings cause) := by
  rw [concluded, settingsAt_of_settingsAre are]
  show ((settings.resolve common.overrides).mapError RunError.settings >>= _) = _
  rw [refused]
  rfl

theorem concluded_of_settled {resolved : Resolved} (settled : Settled world common resolved) :
    concluded world common = ((world.schemaAt common.schema).mapError RunError.schema).map
      fun schema =>
        Run.conclude common.schema schema resolved world.vars world.now world.now := by
  obtain ⟨settings, are, resolves⟩ := settled
  unfold concluded
  rw [settingsAt_of_settingsAre are]
  show ((settings.resolve common.overrides).mapError RunError.settings >>= _) = _
  rw [resolves]
  cases world.schemaAt common.schema <;> rfl

theorem concluded_of_schemaAt {resolved : Resolved} {cause : SchemaError}
    (settled : Settled world common resolved)
    (failed : world.schemaAt common.schema = .error cause) :
    concluded world common = .error (.schema cause) := by
  rw [concluded_of_settled settled, failed]
  rfl

theorem schemaAt_of_lost {path : String} {fault : FileFault}
    (lost : world.files.read world.directory path = .error fault) :
    world.schemaAt path = .error (.unreadable path fault.message) := by
  rw [schemaAt, lost]

theorem schemaAt_of_unread {path text : String}
    (found : world.files.read world.directory path = .ok text)
    (unread : Document.read text = none) :
    world.schemaAt path = .error (.notYaml (world.wording.schema text)) := by
  simp only [schemaAt, found, Schema.read, unread]

theorem schemaAt_of_read {path text : String} {document : Document}
    (found : world.files.read world.directory path = .ok text)
    (read : Document.read text = some document) :
    world.schemaAt path = Schema.ofDocument document := by
  simp only [schemaAt, found, Schema.read, read]

theorem concluded_of_concludes {outcome : RunOutcome} (concludes : Concludes world common outcome) :
    concluded world common = .ok outcome := by
  obtain ⟨resolved, text, document, schema, settled, found, read, load, rfl⟩ := concludes
  rw [concluded_of_settled settled, schemaAt_of_read found read, load]
  rfl

/-- What is concluded from a world, in the terms of `Concludes` and `Fails`. -/
theorem concluded_cases (world : World) (common : CommonOptions) (options : CheckOptions) :
    (∃ outcome, concluded world common = .ok outcome ∧ Concludes world common outcome) ∨
      ∃ error, concluded world common = .error error ∧
        Fails world common options error.failure.texts := by
  rcases settingsAt_cases world common options with ⟨settings, are⟩ | ⟨error, failed, fails⟩
  case inr => exact .inr ⟨error, concluded_of_settingsAt failed, fails⟩
  cases resolves : settings.resolve common.overrides with
  | error cause =>
      exact .inr ⟨.settings cause, concluded_of_settingsAre are resolves,
        .settings are resolves (SettingsError.told_iff.mpr rfl)⟩
  | ok resolved =>
      have settled : Settled world common resolved := ⟨settings, are, resolves⟩
      cases found : world.files.read world.directory common.schema with
      | error fault =>
          exact .inr ⟨_, concluded_of_schemaAt settled (schemaAt_of_lost found),
            .schemaFile settled found⟩
      | ok text =>
          cases read : Document.read text with
          | none =>
              exact .inr ⟨_, concluded_of_schemaAt settled (schemaAt_of_unread found read),
                .schemaText settled found read⟩
          | some document =>
              cases load : Schema.ofDocument document with
              | error cause =>
                  exact .inr ⟨_,
                    concluded_of_schemaAt settled ((schemaAt_of_read found read).trans load),
                    .schema settled found read load (SchemaError.told_iff.mpr rfl)⟩
              | ok schema =>
                  have concludes : Concludes world common _ :=
                    ⟨resolved, text, document, schema, settled, found, read, load, rfl⟩
                  exact .inl ⟨_, concluded_of_concludes concludes, concludes⟩

theorem concluded_eq_ok_iff {outcome : RunOutcome} :
    concluded world common = .ok outcome ↔ Concludes world common outcome := by
  refine ⟨fun result => ?_, concluded_of_concludes⟩
  rcases concluded_cases world common ⟨"", false, "", none, false⟩ with
    ⟨other, same, concludes⟩ | ⟨error, failed, -⟩
  · exact Except.ok.inj (result.symm.trans same) ▸ concludes
  · exact nomatch result.symm.trans failed

/-- A run ends in an error when there is nothing to conclude, or when a file cannot be saved. -/
theorem attemptCheck_eq_error_iff {error : RunError} :
    (attempt (attemptCheck World.host common options) world).1 = .error error ↔
      concluded world common = .error error ∨
        ∃ outcome, Concludes world common outcome ∧
          (saveAll world.directory (outputFiles options outcome) world.files).1 = .error error := by
  simp only [attempt_attemptCheck, ← concluded_eq_ok_iff]
  cases concluded world common with
  | error cause => simp
  | ok outcome =>
      show Except.map _ (saveAll _ _ _).1 = _ ↔ _
      cases saved : (saveAll world.directory (outputFiles options outcome) world.files).1 <;>
        simp [saved, Except.map]

/-- A run ends in an error exactly when something does not work, and the error has the texts that
tell of it. -/
theorem fails_iff {texts : List String} :
    Fails world common options texts ↔
      ∃ error, (attempt (attemptCheck World.host common options) world).1 = .error error ∧
        error.failure.texts = texts := by
  simp only [attemptCheck_eq_error_iff]
  constructor
  · intro fails
    cases fails with
    | settingsFile present found =>
        exact ⟨_, .inl (concluded_of_settingsAt (settingsAt_of_lost present found)), rfl⟩
    | settingsText found visible read =>
        exact ⟨_, .inl (concluded_of_settingsAt (settingsAt_of_unread found visible read)), rfl⟩
    | settings are resolves told =>
        obtain rfl := SettingsError.told_iff.mp told
        exact ⟨_, .inl (concluded_of_settingsAre are resolves), rfl⟩
    | schemaFile settled found =>
        exact ⟨_, .inl (concluded_of_schemaAt settled (schemaAt_of_lost found)), rfl⟩
    | schemaText settled found read =>
        exact ⟨_, .inl (concluded_of_schemaAt settled (schemaAt_of_unread found read)), rfl⟩
    | schema settled found read load told =>
        obtain rfl := SchemaError.told_iff.mp told
        have failed := (schemaAt_of_read found read).trans load
        exact ⟨_, .inl (concluded_of_schemaAt settled failed), rfl⟩
    | saving concludes stops told =>
        obtain rfl := SaveError.told_iff.mp told
        exact ⟨.saving _ _,
          .inr ⟨_, concludes, saveAll_eq_error_iff.mpr ⟨_, _, stops, rfl⟩⟩, rfl⟩
  · rintro ⟨error, nothing | ⟨outcome, concludes, unsaved⟩, rfl⟩
    · rcases concluded_cases world common options with ⟨outcome, some, -⟩ | ⟨cause, same, fails⟩
      · exact nomatch nothing.symm.trans some
      · exact Except.error.inj (same.symm.trans nothing) ▸ fails
    · obtain ⟨attempt, cause, stops, rfl⟩ := saveAll_eq_error_iff.mp unsaved
      exact .saving concludes stops (SaveError.told_iff.mpr rfl)

end Command

end ConfigGate
