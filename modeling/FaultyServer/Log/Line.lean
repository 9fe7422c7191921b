import FaultyServer.Log.Event
import FaultyServer.Settings.Json

/-!
# Log lines

The two forms in which a record is written: a readable line for development, and one line of JSON
for production.
-/

namespace FaultyServer.Record

/-- The readable text of a field's value: a text is quoted. -/
def readableValue : FieldValue → String
  | .text value => Text.quoted value
  | .shown value => value
  | .number n => String.ofList (Text.decimal n)
  | .flag b => if b then "true" else "false"

/-- The readable line of a record. -/
def readable (r : Record) : String :=
  let fields := r.fields.map fun (name, value) => name ++ ": " ++ readableValue value
  r.level.name ++ " " ++ r.target ++ ": " ++ ", ".intercalate (r.message :: fields)

/-- The value of a field in JSON. -/
def jsonValue : FieldValue → List Char
  | .text value | .shown value => Json.string value
  | .number n => Json.number n
  | .flag b => (if b then "true" else "false").toList

/-- The JSON line of a record. -/
def json (r : Record) : String :=
  let fields := ("message", Json.string r.message) ::
    r.fields.map fun (name, value) => (name, jsonValue value)
  String.ofList <| Json.object
    [("level", Json.string r.level.name), ("fields", Json.object fields)]

end FaultyServer.Record
