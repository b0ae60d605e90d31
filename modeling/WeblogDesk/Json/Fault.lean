/-
  WeblogDesk.Json.Fault

  Why a JSON text was not read.

  The first problem in reading order counts: the text ends too early, it is not
  JSON, or it is JSON of the wrong shape.  Only a wrong shape has details.
-/

import WeblogDesk.Json.Value
import WeblogDesk.Text.Quoted

namespace WeblogDesk
namespace Json

/-- What was met where something else was expected. -/
inductive Found where
  | null
  | bool (b : Bool)
  | number (n : Number)
  | string (s : String)
  | sequence
  | map
  deriving DecidableEq, Repr

/-- What was met, in words. -/
def Found.text : Found → String
  | .null => "null"
  | .bool b => "boolean `" ++ (if b then "true" else "false") ++ "`"
  | .number (.integer n) => "integer `" ++ toString n ++ "`"
  | .number n => "floating point `" ++ String.ofList n.text ++ "`"
  | .string s => "string " ++ Text.inQuotes s
  | .sequence => "sequence"
  | .map => "map"

/-- How a JSON value misses the shape that was expected. -/
inductive Mismatch where
  /-- A value of another kind. -/
  | kind (found : Found) (expected : String)
  /-- A name that is none of those known. -/
  | unknown (given : String) (known : List String)
  /-- A field that has to be there is not. -/
  | missing (field : String)
  /-- A field that may be there once is there again. -/
  | repeated (field : String)
  deriving DecidableEq, Repr

/-- A name as it stands in a message. -/
def ticked (s : String) : String :=
  "`" ++ s ++ "`"

/-- The mismatch in words. -/
def Mismatch.text : Mismatch → String
  | .kind found expected => "invalid type: " ++ found.text ++ ", expected " ++ expected
  | .unknown given known =>
    "unknown variant " ++ ticked given ++ ", expected one of " ++
      String.intercalate ", " (known.map ticked)
  | .missing field => "missing field " ++ ticked field
  | .repeated field => "duplicate field " ++ ticked field

/-- The first problem of a text. -/
inductive Fault where
  /-- The text ends too early. -/
  | cutShort
  /-- The text is not JSON. -/
  | malformed
  /-- The text is JSON so far, of the wrong shape. -/
  | mismatch (m : Mismatch)
  deriving DecidableEq, Repr

/-- The fault in words. -/
def Fault.text : Fault → String
  | .cutShort => "the text ends too early"
  | .malformed => "the text is not JSON"
  | .mismatch m => m.text

end Json
end WeblogDesk
