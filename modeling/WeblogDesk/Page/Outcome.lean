/-
  WeblogDesk.Page.Outcome

  What comes of a change that a user asks for, and the two panels that tell it.

  Each panel is shown in place of the other.
-/

import WeblogDesk.Failure

namespace WeblogDesk

/-- Which message panels are visible. -/
structure Panels where
  /-- The one that tells of a change that was made. -/
  success : Bool
  /-- The one that tells of a change that was refused. -/
  error : Bool
  deriving DecidableEq, Repr

namespace Panels

/-- No panel is visible. -/
def hidden : Panels := ⟨false, false⟩

/-- Hides the error panel and shows the success panel. -/
def showSuccess (panels : Panels) : Panels :=
  { { panels with error := false } with success := true }

/-- Hides the success panel and shows the error panel. -/
def showError (panels : Panels) : Panels :=
  { { panels with success := false } with error := true }

end Panels

/-- What comes of a change that a user asks for. -/
inductive Outcome where
  /-- The server has made the change; it may say something about it. -/
  | saved (message : String)
  /-- Something needed was missing and nothing was sent. -/
  | skipped
  /-- The login session is gone; the user is sent to log in again. -/
  | sessionExpired
  /-- The server refuses, with a reason. -/
  | rejected (payload : Payload)
  /-- Anything else went wrong; the page is as it was. -/
  | failed (failure : Failure)

/-- Whether the change was made. -/
def Outcome.isSaved : Outcome → Bool
  | .saved _ => true
  | _ => false

end WeblogDesk
