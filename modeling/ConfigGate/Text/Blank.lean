/-!
# White space

The characters with the property `White_Space`. Rules may be laid out with any of them, and a text
of nothing else counts as blank.

Results: `isBlankText_iff`: a text is blank exactly when each of its characters is.
-/

namespace ConfigGate.Text

/-- Whether a character has the property `White_Space`. -/
def isBlank (c : Char) : Bool :=
  ('\t' ≤ c && c ≤ '\r') || c == ' ' || c == '\u0085' || c == '\u00a0' || c == '\u1680' ||
    ('\u2000' ≤ c && c ≤ '\u200a') || c == '\u2028' || c == '\u2029' || c == '\u202f' ||
    c == '\u205f' || c == '\u3000'

/-- Whether a text has no character but white space. -/
def isBlankText (text : String) : Bool := text.toList.all isBlank

theorem isBlankText_iff {text : String} :
    isBlankText text = true ↔ ∀ c ∈ text.toList, isBlank c = true :=
  List.all_eq_true

end ConfigGate.Text
