/-
  WeblogDesk.Call

  The seven things that the server can be asked for.

  A call has a method, the names of its place on the server and sometimes a
  body.  Planets live in the tree of administrators, weblogs in the tree of
  authors.
-/

import WeblogDesk.Http.Exchange
import WeblogDesk.Membership

namespace WeblogDesk

/-- Something the server can be asked for. -/
inductive Call where
  /-- All planets. -/
  | listPlanets
  | deletePlanet (id : String)
  /-- The members of a weblog with their roles. -/
  | members (weblog : String)
  /-- The users who may be added to a weblog. -/
  | potentialMembers (weblog : String)
  /-- Replaces the roles of all members at once. -/
  | updateMembers (weblog : String) (roles : RoleMap)
  | attachUser (weblog user : String) (role : Role)
  /-- The user has to accept. -/
  | inviteUser (weblog user : String) (role : Role)

namespace Call

/-- The tree of administrators. -/
def adminTree : List String := ["tb-ui", "admin", "rest"]

/-- The tree of authors. -/
def authoringTree : List String := ["tb-ui", "authoring", "rest"]

/-- The tree that the call is in. -/
def tree : Call → List String
  | .listPlanets => adminTree
  | .deletePlanet _ => adminTree
  | _ => authoringTree

/-- The names below the tree. -/
def names : Call → List String
  | .listPlanets => ["planets"]
  | .deletePlanet id => ["planets", id]
  | .members weblog => ["weblog", weblog, "members"]
  | .potentialMembers weblog => ["weblog", weblog, "potentialmembers"]
  | .updateMembers weblog _ => ["weblog", weblog, "memberupdate"]
  | .attachUser weblog user role =>
    ["weblog", weblog, "user", user, "role", role.wireName, "attach"]
  | .inviteUser weblog user role =>
    ["weblog", weblog, "user", user, "role", role.wireName, "invite"]

/-- How the server is asked. -/
def method : Call → Http.Method
  | .listPlanets => .get
  | .deletePlanet _ => .delete
  | .members _ => .get
  | .potentialMembers _ => .get
  | .updateMembers _ _ => .post
  | .attachUser _ _ _ => .post
  | .inviteUser _ _ _ => .post

/-- What the call says beyond its place. -/
def body : Call → Option String
  | .updateMembers _ roles => some roles.toJson.compact
  | _ => none

end Call
end WeblogDesk
