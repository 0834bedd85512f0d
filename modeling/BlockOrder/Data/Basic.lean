/-!
# Structured data

What the texts of configuration files describe.
-/

namespace BlockOrder

/-- A piece of structured data.  A plain scalar is an unquoted word; what it stands for is up to
whoever reads it. -/
inductive Data where
  | null
  | bool (b : Bool)
  | int (n : Int)
  /-- A number that is written with a fraction or an exponent. -/
  | real (written : String)
  | string (s : String)
  | plain (word : String)
  | list (items : List Data)
  | record (fields : List (String × Data))
  /-- A record whose fields are not named by words, so that none of them can be read. -/
  | unreadable

namespace Data

/-- The value of a field of a record; of several with the same name the last one counts. -/
def field? (name : String) : Data → Option Data
  | record fields => fields.reverse.lookup name
  | _ => none

end Data

end BlockOrder
