import ConfigGate.JsonSchema.Basic

/-!
# The JSON Schema of the settings file
-/

namespace ConfigGate.JsonSchema

/-- What the file says about one check. -/
def checkSettings : Shape :=
  record [
    ("enabled", described "Override preset enable/disable." (orNull "boolean")),
    ("severity", described "Override preset severity: `info`, `warning`, `error`." optionalText)] []

/-- The document about the settings file. -/
def settings : Json :=
  document "CfgguardConfigV1"
    (described
      ("`cfgguard.toml` schema v1.\n\nThis is a *user-facing* config model: " ++
        "it is permissive so forward-compat is easy.")
      (record [
        ("checks", described "Map of check_id -> config." (mapOrEmpty (reference "CheckConfig"))),
        ("env_prefix",
          described
            "Prefix for environment variable names (`APP` reads `db.url` from `APP_DB_URL`)."
            optionalText),
        ("environment",
          described "Environment contract to apply regardless of the execution tag." optionalText),
        ("execution_env_var",
          described
            "Variable holding the execution environment tag. Defaults to `EXECUTION_ENV`."
            optionalText),
        ("fail_on",
          described "When to fail the check: `error` (default) or `warning`." optionalText),
        ("max_findings",
          described "How many findings to emit before truncating the list." optionalCount),
        ("profile", described "Preset profile: `strict` (default) or `warn`." optionalText),
        ("schema",
          described "Optional schema string for tooling (`cfgguard.config.v1`)." optionalText)] []))
    [("CheckConfig", checkSettings)]

end ConfigGate.JsonSchema
