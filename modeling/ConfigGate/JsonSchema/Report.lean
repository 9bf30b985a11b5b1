import ConfigGate.JsonSchema.Basic

/-!
# The JSON Schema of reports
-/

namespace ConfigGate.JsonSchema

/-- The figures of a run. -/
def reportData : Shape :=
  described "cfgguard-specific summary payload for the report."
    (record [
      ("profile", text),
      ("execution_env", described "Execution-environment tag the check ran under." text),
      ("contract",
        described
          "Contract (environment) that was applied, if the schema defines one for this run."
          optionalText),
      ("keys_declared", count),
      ("keys_resolved", count),
      ("invariants_evaluated", count),
      ("findings_total", count),
      ("findings_emitted", count),
      ("truncated_reason", optionalText),
      ("config_sha256",
        described "SHA-256 of the canonical resolved-config snapshot." optionalText)]
      ["profile", "execution_env", "keys_declared", "keys_resolved", "invariants_evaluated",
        "findings_total", "findings_emitted"])

/-- The result of a contract. -/
def contractResult : Shape :=
  described "Outcome of evaluating one environment contract."
    (record [("environment", text), ("passed", truth), ("violations", list (reference "Violation"))]
      ["environment", "passed", "violations"])

/-- A finding. -/
def finding : Shape :=
  record [
    ("severity", reference "Severity"),
    ("check_id", text),
    ("code", text),
    ("message", text),
    ("location", optionalReference "Location"),
    ("help", optionalText),
    ("url", optionalText),
    ("fingerprint",
      described
        ("Stable identifier intended for dedup and trending: a hash of\n" ++
          "`check_id + code + subject` where the subject is a config key or invariant name.")
        optionalText),
    ("data",
      described "Check-specific structured payload (kept open-ended for forward compatibility)."
        [])]
    ["severity", "check_id", "code", "message"]

/-- The result of an invariant. -/
def invariantResult : Shape :=
  described "Outcome of evaluating one invariant against a resolved context."
    (record [
      ("name", text),
      ("rule", described "Source text of the rule as declared in the schema." text),
      ("passed", truth),
      ("left_value", text),
      ("right_value", text),
      ("message", described "Human-readable explanation; empty when the invariant holds." text)]
      ["name", "rule", "passed", "left_value", "right_value"])

/-- The place of a finding. -/
def location : Shape :=
  described
    "Where a finding points. For cfgguard this is the schema file that declared the rule."
    (record [("path", text), ("line", optionalCount), ("col", optionalCount)] ["path"])

/-- A value that a contract does not permit. -/
def violation : Shape :=
  described "A single contract-rule failure for one key/value pair."
    (record [
      ("key", text),
      ("actual_value", text),
      ("rule_type", reference "RuleType"),
      ("expected_values", list text),
      ("pattern",
        described "The deny pattern that matched (deny violations only)." optionalText)]
      ["key", "actual_value", "rule_type", "expected_values"])

/-- The document about reports. -/
def report : Json :=
  document "ReportEnvelope"
    (described
      ("A generic receipt/envelope.\n\nKeeping this generic allows embedding tool-specific data " ++
        "while still enforcing a stable outer shape.")
      (record [
        ("schema", described "Versioned schema identifier for the envelope shape." text),
        ("tool", reference "ToolMeta"),
        ("started_at", text),
        ("finished_at", text),
        ("verdict", reference "Verdict"),
        ("findings", list (reference "Finding")),
        ("data", reference "CfgguardData"),
        ("invariants",
          described "Raw invariant outcomes, one per declared invariant, in schema order."
            (listOrEmpty (reference "InvariantResult"))),
        ("contract",
          described "Contract outcome for the applied environment."
            (optionalReference "EvalResult"))]
        ["schema", "tool", "started_at", "finished_at", "verdict", "findings", "data"]))
    [ ("CfgguardData", reportData),
      ("EvalResult", contractResult),
      ("Finding", finding),
      ("InvariantResult", invariantResult),
      ("Location", location),
      ("RuleType",
        described "Which side of a contract produced a violation." (choice ["allow", "deny"])),
      ("Severity",
        described "Severity is intentionally small: it maps cleanly to CI signals."
          (choice ["info", "warning", "error"])),
      ("ToolMeta", record [("name", text), ("version", text)] ["name", "version"]),
      ("Verdict", choice ["pass", "warn", "fail"]),
      ("Violation", violation)]

end ConfigGate.JsonSchema
