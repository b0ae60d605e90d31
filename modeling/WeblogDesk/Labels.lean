/-
  WeblogDesk.Labels

  What the two buttons of a confirmation say.
-/

namespace WeblogDesk

/-- What the two buttons of a confirmation say. -/
structure Labels where
  /-- The button that goes on. -/
  confirm : String
  /-- The button that goes back. -/
  cancel : String
  deriving DecidableEq, Repr

/-- The labels where none are set. -/
def Labels.default : Labels := ⟨"Confirm", "Cancel"⟩

end WeblogDesk
