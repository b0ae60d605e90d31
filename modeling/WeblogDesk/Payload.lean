/-
  WeblogDesk.Payload

  What a server says when it refuses a request.

  A body that is JSON is kept as its value, any other body as a string of itself.
-/

import WeblogDesk.Json.Reader

namespace WeblogDesk

/-- The reason that a server gives for refusing a request. -/
structure Payload where
  /-- The reason, in normal form. -/
  value : Json.Value

namespace Payload

/-- The payload of a body. -/
def ofBody (body : String) : Payload :=
  match Json.Value.parse body with
  | .ok v => ⟨v.normalize⟩
  | .error _ => ⟨.string body⟩

/-- The reason, if it is a text. -/
def text? : Payload → Option String
  | ⟨.string s⟩ => some s
  | _ => none

/-- The reason in one line: a text as it is, anything else as JSON. -/
def display : Payload → String
  | ⟨.string s⟩ => s
  | ⟨v⟩ => v.compact

end Payload
end WeblogDesk
