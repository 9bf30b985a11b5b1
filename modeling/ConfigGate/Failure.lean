/-!
# Failures

A failure is what was tried and why it did not work, from the outermost to the innermost. Where a
text could not be read, the innermost cause is what the reader of its format says, in words of its
own.
-/

namespace ConfigGate

/-- What was tried, and the causes of its failing. -/
structure Failure where
  attempt : String
  causes : List String
deriving DecidableEq, Repr

/-- What the readers of formats say about a text that they cannot read. -/
structure Wording where
  /-- What is said about a text that is no settings file. -/
  settings : String → String
  /-- What is said about a text that is no schema file. -/
  schema : String → String
  /-- What is said about a text that is no report. -/
  report : String → String

/-- The readers name the format and no more. -/
def Wording.plain : Wording where
  settings _ := "no settings in TOML"
  schema _ := "no schema in YAML"
  report _ := "no report in JSON"

namespace Failure

/-- Seen from a wider attempt. -/
def within (failure : Failure) (attempt : String) : Failure :=
  ⟨attempt, failure.attempt :: failure.causes⟩

/-- The failure on one line. -/
def line (failure : Failure) : String := ": ".intercalate (failure.attempt :: failure.causes)

/-- A text with its further lines set in. -/
def indentFurther (margin text : String) : String :=
  String.ofList (text.toList.flatMap fun c => if c = '\n' then c :: margin.toList else [c])

/-- The number of a cause, set right in five columns. -/
def causeNumber (number : Nat) : String :=
  let digits := toString number
  "".pushn ' ' (5 - digits.length) ++ digits ++ ": "

/-- Numbered causes, each on lines of its own. -/
def numberedCauses : Nat → List String → String
  | _, [] => ""
  | number, cause :: rest =>
      "\n" ++ causeNumber number ++ indentFurther "       " cause ++
        numberedCauses (number + 1) rest

/-- The list of causes. -/
def causeList : List String → String
  | [] => ""
  | [cause] => "\n\nCaused by:\n    " ++ indentFurther "    " cause
  | causes => "\n\nCaused by:" ++ numberedCauses 0 causes

/-- What is shown when a program ends with the failure. -/
def report (failure : Failure) : String :=
  "Error: " ++ failure.attempt ++ causeList failure.causes ++ "\n"

end Failure

end ConfigGate
