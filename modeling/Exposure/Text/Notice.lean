/-!
# Notices

One-line notices to the user start with a sign for how things went.
-/

namespace Exposure.Text

/-- A notice that something went well. -/
def success (text : String) : String := "✓ " ++ text

/-- A notice that something failed. -/
def failure (text : String) : String := "✗ " ++ text

/-- A notice that something deserves attention. -/
def caution (text : String) : String := "⚠ " ++ text

end Exposure.Text
