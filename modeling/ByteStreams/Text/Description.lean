/-!
# Descriptions of values

A `Description` is the structure of a value as a diagnostic shows it: a word, a list of bytes, or
a record with named fields. It is printed on one line (`compact`) or with one item a line
(`indented`).
-/

namespace ByteStreams.Text

/-- The shown structure of a value. -/
inductive Description where
  /-- A word or number. -/
  | word (text : String)
  /-- A list of byte values. -/
  | bytes (content : List UInt8)
  /-- A record; `partly` says that it has fields beside those shown. -/
  | record (name : String) (fields : List (String × Description)) (partly : Bool)

namespace Description

/-- A truth value as a word. -/
def flag (b : Bool) : Description := .word (if b then "true" else "false")

/-- A count as a word. -/
def count (n : Nat) : Description := .word (toString n)

mutual

/-- The description on one line. -/
def compact : Description → String
  | .word text => text
  | .bytes content => "[" ++ ", ".intercalate (content.map toString) ++ "]"
  | .record name fields partly =>
    let shown := compactFields fields ++ if partly then [".."] else []
    name ++ " \x7b " ++ ", ".intercalate shown ++ " \x7d"

/-- The fields of a record on one line. -/
def compactFields : List (String × Description) → List String
  | [] => []
  | (name, value) :: rest => (name ++ ": " ++ value.compact) :: compactFields rest

end

/-- Four blanks for each level of nesting. -/
def margin (depth : Nat) : String := String.ofList (List.replicate (4 * depth) ' ')

mutual

/-- The description with one item a line, its first line standing at nesting `depth`. -/
def indented (depth : Nat) : Description → String
  | .word text => text
  | .bytes [] => "[]"
  | .bytes content =>
    let items := content.map fun b => margin (depth + 1) ++ toString b ++ ",\n"
    "[\n" ++ String.join items ++ margin depth ++ "]"
  | .record name fields partly =>
    let more := if partly then margin (depth + 1) ++ "..\n" else ""
    name ++ " \x7b\n" ++ String.join (indentedFields (depth + 1) fields) ++ more ++
      margin depth ++ "\x7d"

/-- The fields of a record, each on lines of its own at nesting `depth`. -/
def indentedFields (depth : Nat) : List (String × Description) → List String
  | [] => []
  | (name, value) :: rest =>
    (margin depth ++ name ++ ": " ++ value.indented depth ++ ",\n") :: indentedFields depth rest

end

end Description

end ByteStreams.Text
