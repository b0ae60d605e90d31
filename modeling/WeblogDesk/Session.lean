/-
  WeblogDesk.Session

  The login session, which goes along with every request as a cookie.
-/

import WeblogDesk.Failure

namespace WeblogDesk
namespace Session

/-- The name of the cookie. -/
def cookieName : String := "JSESSIONID"

/-- Whether a header may hold the character: controls other than the tab may not stand
    there. -/
def isHeaderChar (c : Char) : Bool :=
  (0x20 ≤ c.toNat || c == '\t') && c.toNat != 0x7F

/-- The cookie that a session id gives. -/
def cookie (id : String) : Except Failure String :=
  if id.toList.all isHeaderChar then .ok (cookieName ++ "=" ++ id)
  else .error (.config .badCookie)

end Session
end WeblogDesk
