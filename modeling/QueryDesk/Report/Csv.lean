import QueryDesk.Text.Quoted

/-!
# Records with commas

Records of fields as text: fields are separated by commas, records end with a
carriage return and a line feed, and a field is quoted where it has to be, a
quote inside it being written twice. A record of one empty field is quoted, so
that it can be told from a record without fields.
-/

namespace QueryDesk.Report.Csv

/-- Whether a character makes its field be quoted. -/
def isSpecial (c : Char) : Bool := c = ',' || c = '"' || c = '\r' || c = '\n'

/-- A field that is quoted where it has to be. -/
def field (cs : List Char) : List Char := if cs.any isSpecial then Text.Quoted.quote cs else cs

/-- A record without its end. -/
def body : List (List Char) → List Char
  | [[]] => ['"', '"']
  | fields => [','].intercalate (fields.map field)

/-- A record. -/
def record (fields : List (List Char)) : List Char := body fields ++ ['\r', '\n']

end QueryDesk.Report.Csv
