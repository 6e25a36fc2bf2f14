import TenantRoutes.Text.Quoted
/-! The description of a value on one line, for messages about errors and for inspection. A record
shows its name and its fields in braces, a case with positional contents shows them in
parentheses, and lists, maps and optional values have one form each. -/
namespace TenantRoutes.Text.Described

def list (items : List String) : String :=
  "[" ++ String.intercalate ", " items ++ "]"

/-- A record without fields is its bare name. -/
def record (name : String) : List (String × String) → String
  | [] => name
  | fields =>
    let texts := fields.map fun (key, value) => key ++ ": " ++ value
    name ++ " \x7b " ++ String.intercalate ", " texts ++ " \x7d"

def case (name : String) (content : String) : String :=
  name ++ "(" ++ content ++ ")"

def map (entries : List (String × String)) : String :=
  "\x7b" ++ String.intercalate ", " (entries.map fun (key, value) => quoted key ++ ": " ++ value)
    ++ "\x7d"

def optional (describe : α → String) : Option α → String
  | none => "None"
  | some value => case "Some" (describe value)

def flag (value : Bool) : String :=
  if value then "true" else "false"

end TenantRoutes.Text.Described
