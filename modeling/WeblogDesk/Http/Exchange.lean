/-
  WeblogDesk.Http.Exchange

  Requests, answers, and the record of who said what.

  A `Server` is anything that answers a request from what was exchanged before.
  It may drop the connection instead, or break it within the body of a reply.

  It stands for everything between sending a request and having the answer, and not
  for one machine.
-/

import WeblogDesk.Http.Status
import WeblogDesk.Url.Basic

namespace WeblogDesk
namespace Http

/-- What a request asks for. -/
inductive Method where
  | get
  | post
  | delete
  deriving DecidableEq, Repr

/-- The name of a method on the wire. -/
def Method.name : Method → String
  | .get => "GET"
  | .post => "POST"
  | .delete => "DELETE"

/-- A request as it leaves this side. -/
structure Request where
  /-- What is asked for. -/
  method : Method
  /-- What it is about. -/
  url : Url
  /-- The cookie header. -/
  cookie : Option String
  /-- The name and password of whoever asks, with a colon between them. -/
  credentials : Option (List UInt8)
  /-- The body, which is JSON. -/
  body : Option String
  deriving DecidableEq, Repr

/-- The address that the request is sent to: the fragment stays here. -/
def Request.target (r : Request) : String :=
  r.url.withoutFragment.render

/-- What a server sends back. -/
structure Reply where
  /-- The status code. -/
  status : Nat
  /-- The bytes of the body that arrived. -/
  body : ByteArray
  /-- Whether the body arrived in full. -/
  complete : Bool

instance : DecidableEq Reply := fun a b =>
  decidable_of_iff
    (a.status = b.status ∧ a.body.data = b.body.data ∧ a.complete = b.complete) (by
      cases a
      cases b
      rw [← ByteArray.ext_iff, Reply.mk.injEq])

/-- What becomes of a request. -/
inductive Answer where
  /-- There is no reply: the connection is lost, or the request was never put on it. -/
  | dropped
  | reply (r : Reply)
  deriving DecidableEq

/-- Whether the request was carried out. -/
def Answer.isSuccess : Answer → Bool
  | .dropped => false
  | .reply r => Http.isSuccess r.status

/-- A request and what became of it. -/
structure Exchange where
  /-- What was asked. -/
  request : Request
  /-- What came of it. -/
  answer : Answer
  deriving DecidableEq

/-- Answers each request from what was exchanged before.

    The answer is what sending the request comes to in the end.  A reply stands behind all
    redirects, and a request whose URL the network layer refuses (more than 65534 bytes, or
    a double quote, a backtick or a brace in its host) is one that was dropped.  So what
    holds with every server holds with these as well. -/
abbrev Server := List Exchange → Request → Answer

end Http
end WeblogDesk
