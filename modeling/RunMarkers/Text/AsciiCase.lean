/-!
# ASCII case

Words that configuration files spell in any case are compared by their ASCII letters; letters
outside ASCII have to agree exactly.
-/

namespace RunMarkers.Text

/-- A text with its ASCII capitals in lower case. -/
def asciiLower (text : String) : String := String.ofList (text.toList.map Char.toLower)

/-- Equality up to the case of ASCII letters. -/
def eqIgnoringAsciiCase (a b : String) : Bool := asciiLower a == asciiLower b

theorem eqIgnoringAsciiCase_iff {a b : String} :
    eqIgnoringAsciiCase a b = true ↔ asciiLower a = asciiLower b := by
  simp [eqIgnoringAsciiCase]

end RunMarkers.Text
