/-
  WeblogDesk.Url.Basic

  URLs and their text.

  Every part is kept in normal form, so `render` only puts them together.  A URL
  whose text goes on with a slash behind the scheme has a path of segments; any
  other holds one piece of text in its place and cannot carry further segments.
-/

import WeblogDesk.Url.Path

namespace WeblogDesk

namespace Url

/-- Who answers for a URL. -/
structure Authority where
  /-- The credentials, with a colon before the password; empty if there are none. -/
  userinfo : List Char
  /-- The host. -/
  host : List Char
  /-- The port, if it is not the one of the scheme. -/
  port : Option Nat
  deriving DecidableEq, Repr

/-- What stands between the scheme and the path. -/
inductive Lead where
  /-- Nothing. -/
  | bare
  /-- A dot, so that a path that begins with two slashes is not read as a host. -/
  | guarded
  | authority (a : Authority)
  /-- A text in place of a path, which has no segments then. -/
  | rootless (text : List Char)
  deriving DecidableEq, Repr

/-- The schemes that need a host, with the port that each has by default. -/
def defaultPorts : List (List Char × Nat) :=
  [(['h', 't', 't', 'p'], 80), (['h', 't', 't', 'p', 's'], 443), (['w', 's'], 80),
    (['w', 's', 's'], 443), (['f', 't', 'p'], 21)]

/-- The scheme of files, which needs no host. -/
def fileScheme : List Char := ['f', 'i', 'l', 'e']

/-- Whether the scheme is one whose URLs always have a host and a path. -/
def isSpecialScheme (scheme : List Char) : Bool :=
  scheme = fileScheme || (defaultPorts.lookup scheme).isSome

end Url

/-- A URL, each part in normal form. -/
structure Url where
  /-- The scheme, in lower case. -/
  scheme : List Char
  /-- What stands between the scheme and the path. -/
  lead : Url.Lead
  /-- The segments of the path. -/
  path : Url.Path
  /-- The query. -/
  query : Option (List Char)
  /-- The fragment. -/
  fragment : Option (List Char)
  deriving DecidableEq, Repr

namespace Url

/-- The text of an authority. -/
def Authority.text (a : Authority) : List Char :=
  (if a.userinfo.isEmpty then [] else a.userinfo ++ ['@']) ++ a.host ++
    match a.port with
    | none => []
    | some port => ':' :: Nat.toDigits 10 port

/-- The text between the scheme and the path. -/
def Lead.text : Lead → List Char
  | .bare => []
  | .guarded => ['/', '.']
  | .authority a => '/' :: '/' :: a.text
  | .rootless text => text

/-- What follows the path. -/
def tailText (query fragment : Option (List Char)) : List Char :=
  (match query with
    | none => []
    | some q => '?' :: q) ++
  match fragment with
  | none => []
  | some f => '#' :: f

/-- The text of a URL. -/
def render (u : Url) : String :=
  String.ofList (u.scheme ++ ':' :: u.lead.text ++ u.path.text ++ tailText u.query u.fragment)

/-- Whether the text goes on with a slash behind the scheme, so that the URL can carry
    further segments. -/
def isRooted (u : Url) : Bool :=
  (u.lead.text ++ u.path.text ++ tailText u.query u.fragment).head? = some '/'

/-- Whether the URL names a host. -/
def hasHost (u : Url) : Bool :=
  match u.lead with
  | .authority _ => true
  | _ => false

/-- Whether the URL can be asked for over the network. -/
def isHttp (u : Url) : Bool :=
  u.hasHost && (u.scheme = ['h', 't', 't', 'p'] || u.scheme = ['h', 't', 't', 'p', 's'])

/-- The URL with names behind its path; query and fragment stay. -/
def extend (u : Url) (names : List String) : Url :=
  { u with path :=
      u.path.extend (u.scheme = fileScheme) (isSpecialScheme u.scheme) (names.map (·.toList)) }

/-- Whether an encoded text is UTF-8 when it is decoded. -/
def isText (s : List Char) : Bool :=
  (String.fromUTF8? ⟨(decode s).toArray⟩).isSome

/-- The name of the credentials, encoded. -/
def Authority.userName (a : Authority) : List Char :=
  a.userinfo.takeWhile (· != ':')

/-- The password of the credentials, encoded; empty if there is none. -/
def Authority.password (a : Authority) : List Char :=
  (a.userinfo.dropWhile (· != ':')).drop 1

/-- Whether the credentials can be told as text: the name, or the password if there is
    no name. -/
def Authority.hasReadableUserinfo (a : Authority) : Bool :=
  isText a.userName && (!a.userName.isEmpty || isText a.password)

/-- The name and the password of the URL, with a colon between them. -/
def credentials (u : Url) : Option (List UInt8) :=
  match u.lead with
  | .authority a =>
    if a.userinfo.isEmpty || !a.hasReadableUserinfo then none
    else
      some (decode a.userName ++ String.utf8EncodeChar ':' ++
        if isText a.password then decode a.password else [])
  | _ => none

/-- The URL without credentials, which are no part of the address; those that cannot be
    told as text stay. -/
def withoutUserinfo (u : Url) : Url :=
  match u.lead with
  | .authority a =>
    if a.hasReadableUserinfo then { u with lead := .authority { a with userinfo := [] } } else u
  | _ => u

/-- The URL without fragment. -/
def withoutFragment (u : Url) : Url :=
  { u with fragment := none }

end Url
end WeblogDesk
