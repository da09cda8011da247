/-!
# Records in words

A record is written on one line as its name and, in braces, its fields. `Fields.textAndMore` is for
a record that does not show all of its fields.
-/

namespace PinBridge.Fields

/-- The fields, each as its name and its value. -/
def inside (fields : List (String × String)) : String :=
  ", ".intercalate (fields.map fun field => field.1 ++ ": " ++ field.2)

/-- A record with all of its fields. -/
def text (name : String) (fields : List (String × String)) : String :=
  name ++ " \x7b " ++ inside fields ++ " \x7d"

/-- A record with some of its fields. -/
def textAndMore (name : String) (fields : List (String × String)) : String :=
  name ++ " \x7b " ++ inside fields ++ ", .. \x7d"

end PinBridge.Fields
