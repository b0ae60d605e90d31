/-
  WeblogDesk.Page.Planets

  The page of planets: a table, and a dialog that confirms a deletion.

  A planet is deleted only through the dialog.  The dialog closes before the
  server is asked, and the planet leaves the table only when the server has
  deleted it.
-/

import WeblogDesk.Client
import WeblogDesk.Labels

namespace WeblogDesk

open Http

/-- One row of the table as it is drawn. -/
structure Row where
  /-- The key of the row. -/
  id : String
  /-- The title of the planet. -/
  title : String
  /-- The handle of the planet. -/
  handle : String
  /-- Whether the row is one of the striped ones: the first, the third, and so on. -/
  striped : Bool
  deriving DecidableEq, Repr

/-- The dialog that confirms a deletion. -/
structure ConfirmDialog where
  /-- What the buttons say. -/
  labels : Labels
  /-- The title of the planet that the dialog was opened for last. -/
  title : String
  /-- The planet to delete. -/
  target : Option String
  /-- Whether the dialog is open. -/
  isOpen : Bool
  deriving DecidableEq, Repr

namespace ConfirmDialog

/-- A dialog that was never opened. -/
def new (labels : Labels) : ConfirmDialog := ⟨labels, "", none, false⟩

/-- The dialog opened for a planet. -/
def openFor (dialog : ConfirmDialog) (id title : String) : ConfirmDialog :=
  { dialog with title, target := some id, isOpen := true }

/-- The dialog closed; its title stays. -/
def close (dialog : ConfirmDialog) : ConfirmDialog :=
  { dialog with target := none, isOpen := false }

end ConfirmDialog

/-- The page of planets. -/
structure PlanetPage where
  /-- How the server is asked. -/
  client : Client
  /-- The planets of the table, in the server's order. -/
  planets : List Planet
  /-- The dialog over the table. -/
  dialog : ConfirmDialog

namespace PlanetPage

/-- The page before anything is read. -/
def new (client : Client) (labels : Labels) : PlanetPage :=
  ⟨client, [], ConfirmDialog.new labels⟩

/-- The first planet of the table with the id. -/
def planet? (page : PlanetPage) (id : String) : Option Planet :=
  page.planets.find? (·.id == id)

/-- The rows of the table. -/
def rows (page : PlanetPage) : List Row :=
  page.planets.mapIdx fun i planet => ⟨planet.id, planet.title, planet.handle, i % 2 == 0⟩

/-- Reads the planets; how many there are.  A read that fails leaves the table as it was. -/
def load (page : PlanetPage) : Conversation (PlanetPage × Except Failure Nat) := do
  match ← page.client.listPlanets with
  | .ok planets => return ({ page with planets }, .ok planets.length)
  | .error failure => return (page, .error failure)

/-- Opens the dialog for the planet with the id; whether there is one. -/
def requestDelete (page : PlanetPage) (id : String) : PlanetPage × Bool :=
  match page.planet? id with
  | some planet => ({ page with dialog := page.dialog.openFor id planet.title }, true)
  | none => (page, false)

/-- Deletes the planet that the dialog is open for; nothing if it is closed. -/
def confirmDelete (page : PlanetPage) : Conversation (PlanetPage × Except Failure Unit) := do
  if page.dialog.isOpen then
    let target := page.dialog.target
    let page := { page with dialog := page.dialog.close }
    match target with
    | none => return (page, .ok ())
    | some id =>
      match ← page.client.deletePlanet id with
      | .ok () => return ({ page with planets := page.planets.filter (·.id != id) }, .ok ())
      | .error failure => return (page, .error failure)
  else return (page, .ok ())

/-- Closes the dialog. -/
def cancelDelete (page : PlanetPage) : PlanetPage :=
  { page with dialog := page.dialog.close }

/-! ## Histories -/

/-- Something that a user does on the page. -/
inductive Action where
  | load
  | requestDelete (id : String)
  | confirmDelete
  | cancelDelete
  deriving DecidableEq, Repr

/-- What an action answers. -/
inductive Result where
  /-- How many planets were read. -/
  | read (result : Except Failure Nat)
  /-- Whether there is such a planet. -/
  | isListed (answer : Bool)
  /-- Whether the deletion went well. -/
  | deleted (result : Except Failure Unit)
  /-- Nothing. -/
  | done

/-- One action. -/
def act (page : PlanetPage) : Action → Conversation (PlanetPage × Result)
  | .load => do
    let (page, result) ← page.load
    return (page, .read result)
  | .requestDelete id =>
    let (page, answer) := page.requestDelete id
    return (page, .isListed answer)
  | .confirmDelete => do
    let (page, result) ← page.confirmDelete
    return (page, .deleted result)
  | .cancelDelete => return (page.cancelDelete, .done)

/-- The actions one after the other, with what each answers. -/
def actAll (page : PlanetPage) : List Action → Conversation (PlanetPage × List Result)
  | [] => return (page, [])
  | action :: rest => do
    let (page, result) ← page.act action
    let (page, results) ← page.actAll rest
    return (page, result :: results)

end PlanetPage
end WeblogDesk
