/-! # Escaped literals

Text placed between double quotes has a backslash before every double quote and every backslash.
-/

namespace Bindery.Text

/-- A backslash goes before each double quote and each backslash. -/
def escapeChars : List Char → List Char
  | [] => []
  | c :: rest =>
    if c = '"' || c = '\\' then '\\' :: c :: escapeChars rest else c :: escapeChars rest

/-- A text as it stands between double quotes. -/
def escape (s : String) : String := String.ofList (escapeChars s.toList)

end Bindery.Text
