/-!
Diagnostic layout of a named record: on one line, or with one field a line.
-/

namespace AddressWatch.Text

/-- A name and its fields, each with its text. -/
structure Layout where
  name : String
  fields : List (String × String)

namespace Layout

/-- The fields on one line, between braces. -/
def inline (layout : Layout) : String :=
  let fields := layout.fields.map fun (label, text) => label ++ ": " ++ text
  layout.name ++ " \x7b " ++ ", ".intercalate fields ++ " \x7d"

/-- One field a line, indented by four and each followed by a comma. -/
def indented (layout : Layout) : String :=
  let fields := layout.fields.map fun (label, text) => "    " ++ label ++ ": " ++ text ++ ",\n"
  layout.name ++ " \x7b\n" ++ String.join fields ++ "\x7d"

end Layout

end AddressWatch.Text
