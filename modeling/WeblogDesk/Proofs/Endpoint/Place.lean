/-
  WeblogDesk.Proofs.Endpoint.Place

  Where on the server each call goes.

  A call goes to its `place` if the base URL can be extended, and nowhere if it
  cannot.  `url_eq` follows the names of a call onto the path of the base URL: the
  stem of that path, the three names of the tree, and `Call.below`, which depends on
  the call alone.
-/

import WeblogDesk.Client
import WeblogDesk.Proofs.Url.Naming

namespace WeblogDesk

open Url Url.Path

namespace Call

/-- The segments below the tree. -/
def below : Call → Url.Path
  | .listPlanets => ["planets".toList]
  | .deletePlanet id => (Naming.of id.toList).behind "planets".toList
  | .members weblog => (Naming.of weblog.toList).behind "weblog".toList ++ ["members".toList]
  | .potentialMembers weblog =>
    (Naming.of weblog.toList).behind "weblog".toList ++ ["potentialmembers".toList]
  | .updateMembers weblog _ =>
    (Naming.of weblog.toList).behind "weblog".toList ++ ["memberupdate".toList]
  | .attachUser weblog user role =>
    (Naming.of weblog.toList).behind "weblog".toList ++
      (Naming.of user.toList).behind "user".toList ++
        ["role".toList, role.wireName.toList, "attach".toList]
  | .inviteUser weblog user role =>
    (Naming.of weblog.toList).behind "weblog".toList ++
      (Naming.of user.toList).behind "user".toList ++
        ["role".toList, role.wireName.toList, "invite".toList]

/-- The segments of the tree. -/
def treePath (call : Call) : Url.Path := call.tree.map (·.toList)

theorem isPlain_wireName (role : Role) : IsPlain role.wireName.toList := by
  cases role <;> decide

variable {path : Url.Path}

theorem foldl_push_constant {constant : List Char} (hplain : IsPlain constant)
    (h : 2 ≤ path.length) (rest : List (List Char)) :
    (constant :: rest).foldl (push false true) path =
      rest.foldl (push false true) (path ++ [constant]) := by
  rw [List.foldl_cons, push_constant hplain h]

theorem foldl_push_name {constant : List Char} (hplain : IsPlain constant)
    (hdrive : holdsDrive constant = false) (h : 2 ≤ path.length) (name : List Char)
    (rest : List (List Char)) :
    (constant :: name :: rest).foldl (push false true) path =
      rest.foldl (push false true) (path ++ (Naming.of name).behind constant) := by
  rw [List.foldl_cons, List.foldl_cons, push_push hplain hdrive h]

theorem foldl_push_weblog {last : List Char} (hlast : IsPlain last) (h : 2 ≤ path.length)
    (weblog : List Char) :
    ["weblog".toList, weblog, last].foldl (push false true) path =
      path ++ ((Naming.of weblog).behind "weblog".toList ++ [last]) := by
  have hlonger (more : Url.Path) : 2 ≤ (path ++ more).length := by
    rw [List.length_append]
    omega
  rw [foldl_push_name (by decide) (by decide) h, foldl_push_constant hlast (hlonger _),
    List.append_assoc]
  rfl

theorem foldl_push_user {last : List Char} (hlast : IsPlain last) (h : 2 ≤ path.length)
    (weblog user : List Char) (role : Role) :
    ["weblog".toList, weblog, "user".toList, user, "role".toList, role.wireName.toList,
        last].foldl (push false true) path =
      path ++ ((Naming.of weblog).behind "weblog".toList ++
        (Naming.of user).behind "user".toList ++
          ["role".toList, role.wireName.toList, last]) := by
  have hlonger (more : Url.Path) : 2 ≤ (path ++ more).length := by
    rw [List.length_append]
    omega
  rw [foldl_push_name (by decide) (by decide) h,
    foldl_push_name (by decide) (by decide) (hlonger _), List.append_assoc,
    foldl_push_constant (by decide) (hlonger _), List.append_assoc,
    foldl_push_constant (isPlain_wireName role) (hlonger _), List.append_assoc,
    foldl_push_constant hlast (hlonger _), List.append_assoc, List.foldl_nil]
  simp only [List.append_assoc, List.cons_append, List.nil_append]

theorem foldl_push_names (h : 2 ≤ path.length) (call : Call) :
    (call.names.map (·.toList)).foldl (push false true) path = path ++ call.below := by
  cases call with
  | listPlanets => exact foldl_push_constant (by decide) h []
  | deletePlanet id => exact foldl_push_name (by decide) (by decide) h id.toList []
  | members weblog => exact foldl_push_weblog (by decide) h weblog.toList
  | potentialMembers weblog => exact foldl_push_weblog (by decide) h weblog.toList
  | updateMembers weblog roles => exact foldl_push_weblog (by decide) h weblog.toList
  | attachUser weblog user role =>
    exact foldl_push_user (by decide) h weblog.toList user.toList role
  | inviteUser weblog user role =>
    exact foldl_push_user (by decide) h weblog.toList user.toList role

theorem foldl_push_treePath (path : Url.Path) (call : Call) :
    call.treePath.foldl (push false true) path = base path ++ call.treePath := by
  cases call <;> exact foldl_push_tree (by decide) (by decide) (by decide) (by decide) path

theorem extend_names (path : Url.Path) (call : Call) :
    path.extend false true ((call.tree ++ call.names).map (·.toList)) =
      stem path ++ call.treePath ++ call.below := by
  -- behind the tree the path is no root any more, whatever it was
  have hlong : 2 ≤ (stem path ++ call.treePath).length := by
    have htree : call.treePath.length = 3 := by cases call <;> rfl
    rw [List.length_append]
    omega
  rw [Url.Path.extend, List.map_append, List.foldl_append]
  have htree := foldl_push_treePath path.dropSlash call
  rw [treePath] at htree hlong ⊢
  rw [htree]
  exact foldl_push_names hlong call

end Call

namespace Client

/-- The base URL with the names of a call behind its path. -/
def place (client : Client) (call : Call) : Url :=
  client.base.extend (call.tree ++ call.names)

theorem url_of_isRooted {client : Client} (h : client.base.isRooted = true) (call : Call) :
    client.url call = .ok (client.place call) :=
  if_pos h

theorem url_of_not_isRooted {client : Client} (h : client.base.isRooted = false) (call : Call) :
    client.url call = .error (.config (.noPath client.base.render)) :=
  if_neg (Bool.eq_false_iff.1 h)

/-- The place of a call: the tree and the names of the call behind the stem of the path. -/
theorem place_eq {client : Client} (h : client.base.isHttp = true) (call : Call) :
    client.place call =
      { client.base with path := stem client.base.path ++ call.treePath ++ call.below } := by
  rw [place, extend_of_isHttp h, Call.extend_names]

/-- The URL of a call to a server of the network is its place. -/
theorem url_eq {client : Client} (h : client.base.isHttp = true) (call : Call) :
    client.url call =
      .ok { client.base with path := stem client.base.path ++ call.treePath ++ call.below } := by
  rw [url_of_isRooted (isRooted_of_isHttp h), place_eq h]

end Client
end WeblogDesk
