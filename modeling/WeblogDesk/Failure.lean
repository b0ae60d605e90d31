/-
  WeblogDesk.Failure

  Why a call did not give what was asked for.

  Each failure is a cause; `code`, `message` and `display` are its words.  Two
  statuses have a meaning of their own: the login session is gone, and the
  server refuses with a reason.
-/

import WeblogDesk.Http.Status
import WeblogDesk.Payload
import WeblogDesk.Url.Basic
import WeblogDesk.Url.Fault

namespace WeblogDesk

namespace Failure

/-- Why there was no reply. -/
inductive Transport where
  /-- The connection was lost before there was one. -/
  | noAnswer (url : Url)
  /-- No request can be sent to the URL. -/
  | notHttp (url : Url)
  /-- As told by someone else. -/
  | told (text : String)
  deriving DecidableEq, Repr

/-- Why a reply was not understood. -/
inductive Decode where
  /-- The body broke off, or does not say what it should. -/
  | body
  /-- A text is not the JSON it should be. -/
  | json (fault : Json.Fault)
  /-- As told by someone else. -/
  | told (text : String)
  deriving DecidableEq, Repr

/-- What is wrong with the settings. -/
inductive Config where
  /-- The base URL is none. -/
  | badUrl (given : String) (fault : Url.Fault)
  /-- The base URL cannot be extended. -/
  | noPath (url : String)
  /-- The session id cannot be sent in a header. -/
  | badCookie
  /-- No weblog is named. -/
  | noWeblog
  /-- As told by someone else. -/
  | told (text : String)
  deriving DecidableEq, Repr

/-- Why there was no reply, in words. -/
def Transport.text : Transport → String
  | .noAnswer url => "Transport error: error sending request for url (" ++ url.render ++ ")"
  | .notHttp url => "Transport error: builder error for url (" ++ url.render ++ ")"
  | .told text => text

/-- Why a reply was not understood, in words. -/
def Decode.text : Decode → String
  | .body => "Decode error: error decoding response body"
  | .json fault => "JSON error: " ++ fault.text
  | .told text => text

/-- What is wrong with the settings, in words. -/
def Config.text : Config → String
  | .badUrl given fault => "Invalid base URL " ++ given ++ ": " ++ fault.text
  | .noPath url => "Base URL " ++ url ++ " cannot carry a path"
  | .badCookie => "Invalid session cookie value: failed to parse header value"
  | .noWeblog => "TB_WEBLOG_ID is not set"
  | .told text => text

end Failure

/-- Why a call did not give what was asked for. -/
inductive Failure where
  /-- The login session is gone. -/
  | sessionExpired
  /-- The server refuses, with a reason. -/
  | rejected (payload : Payload)
  /-- Any other status that is no success. -/
  | status (code : Nat) (body : String)
  | transport (cause : Failure.Transport)
  | decode (cause : Failure.Decode)
  | config (cause : Failure.Config)

namespace Failure

/-- The failure that a status and the body of its reply mean. -/
def ofStatus (code : Nat) (body : String) : Failure :=
  if code = Http.requestTimeout then .sessionExpired
  else if code = Http.badRequest then .rejected (Payload.ofBody body)
  else .status code body

/-- The status behind the failure. -/
def status? : Failure → Option Nat
  | .sessionExpired => some Http.requestTimeout
  | .rejected _ => some Http.badRequest
  | .status code _ => some code
  | _ => none

/-- The name of the kind of failure. -/
def code : Failure → String
  | .sessionExpired => "SESSION_EXPIRED"
  | .rejected _ => "VALIDATION_ERROR"
  | .status _ _ => "HTTP_ERROR"
  | .transport _ => "TRANSPORT_ERROR"
  | .decode _ => "DECODE_ERROR"
  | .config _ => "CONFIG_ERROR"

/-- What happened, in words. -/
def message : Failure → String
  | .sessionExpired => "Session expired"
  | .rejected payload => payload.display
  | .status code body => Http.statusLine code ++ if body.isEmpty then "" else ": " ++ body
  | .transport cause => cause.text
  | .decode cause => cause.text
  | .config cause => cause.text

/-- The kind of failure and what happened. -/
def display (f : Failure) : String :=
  f.code ++ ": " ++ f.message

end Failure
end WeblogDesk
