/-
  WeblogDesk.Client

  Asking the server, and what its answers mean.

  A client holds the base URL and the session.  `perform` carries out a call up
  to the reply of a server that has carried it out; the functions behind it read
  that reply as what the call asks for.

  That the base URL can carry a path is asked twice: when the client is made, and
  whenever the URL of a call is made of it.
-/

import WeblogDesk.Call
import WeblogDesk.Http.Conversation
import WeblogDesk.Planet
import WeblogDesk.Session
import WeblogDesk.Text.Decoding
import WeblogDesk.Url.Parser

namespace WeblogDesk

open Http
open Url (Idna)

/-- Where the server is, and as whom it is asked. -/
structure Client where
  /-- The URL that all calls extend. -/
  base : Url
  /-- The cookie of the session. -/
  cookie : Option String
  deriving DecidableEq, Repr

namespace Client

/-- The base URL that a text gives. -/
def baseOf (idna : Idna) (text : String) : Except Failure Url :=
  match Url.parse idna text with
  | .error fault => .error (.config (.badUrl text fault))
  | .ok url => if url.isRooted then .ok url else .error (.config (.noPath url.render))

/-- The client of a base URL and, unless it is anonymous, a session id. -/
def new (idna : Idna) (base : String) (session : Option String) : Except Failure Client := do
  let base ← baseOf idna base
  match session with
  | none => return ⟨base, none⟩
  | some id => return ⟨base, some (← Session.cookie id)⟩

/-- The URL of a place on the server. -/
def endpoint (client : Client) (tree names : List String) : Except Failure Url :=
  if client.base.isRooted then .ok (client.base.extend (tree ++ names))
  else .error (.config (.noPath client.base.render))

/-- The URL of a call. -/
def url (client : Client) (call : Call) : Except Failure Url :=
  client.endpoint call.tree call.names

/-- The request of a call to a URL. -/
def requestTo (client : Client) (url : Url) (call : Call) : Request where
  method := call.method
  url := url.withoutUserinfo
  cookie := client.cookie
  credentials := client.base.credentials
  body := call.body

/-- The text of the body of a reply that is no success; what broke off counts as empty. -/
def refusalText (reply : Reply) : String :=
  if reply.complete then Text.readText reply.body else ""

/-- What an answer means, up to the body of a success. -/
def check (request : Request) : Answer → Except Failure Reply
  | .dropped => .error (.transport (.noAnswer request.url))
  | .reply reply =>
    if isSuccess reply.status then .ok reply
    else .error (Failure.ofStatus reply.status (refusalText reply))

/-- Carries out a call.  Nothing is sent to a URL that is not one of the network's; what the
    network layer refuses of the others, and the redirects it follows, are the `Server`'s. -/
def perform (client : Client) (call : Call) : Conversation (Except Failure Reply) :=
  match client.url call with
  | .error failure => return .error failure
  | .ok url =>
    let request := client.requestTo url call
    if request.url.isHttp then do
      return check request (← Conversation.send request)
    else return .error (.transport (.notHttp request.url))

/-! ## What replies say -/

/-- Reads the body of a reply as JSON, which has to be UTF-8 as it is. -/
def readJson {α : Type} (read : String → Except Json.Fault α) (reply : Reply) :
    Except Failure α :=
  let text := if reply.complete then String.fromUTF8? reply.body else none
  match text.map read with
  | some (.ok a) => .ok a
  | _ => .error (.decode .body)

/-- Reads the body of a reply as a message. -/
def readMessage (reply : Reply) : Except Failure String :=
  if reply.complete then .ok (Text.readText reply.body) else .error (.decode .body)

/-! ## Calls -/

/-- All planets. -/
def listPlanets (client : Client) : Conversation (Except Failure (List Planet)) :=
  return (← client.perform .listPlanets).bind (readJson Planet.listOfJson)

/-- Deletes a planet; what the reply says does not matter. -/
def deletePlanet (client : Client) (id : String) : Conversation (Except Failure Unit) :=
  return (← client.perform (.deletePlanet id)).map fun _ => ()

/-- The members of a weblog. -/
def members (client : Client) (weblog : String) : Conversation (Except Failure RoleMap) :=
  return (← client.perform (.members weblog)).bind (readJson RoleMap.ofJson)

/-- The users who may be added to a weblog. -/
def potentialMembers (client : Client) (weblog : String) :
    Conversation (Except Failure PotentialMembers) :=
  return (← client.perform (.potentialMembers weblog)).bind (readJson PotentialMembers.ofJson)

/-- Carries out a change and gives the server's message. -/
def change (client : Client) (call : Call) : Conversation (Except Failure String) :=
  return (← client.perform call).bind readMessage

end Client
end WeblogDesk
