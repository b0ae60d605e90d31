/-
  WeblogDesk.Proofs.Desk.Runs

  What each command of the desk comes to.

  `Does` lists all that a command can come to: the report, and what is exchanged
  for it.  `does_carryOut` says that every command comes to one of these, and
  `run_cases` that a run carries out the command that its words give, unless they
  give none or the settings make no client.  What holds of every run is a case
  analysis over `Does`.
-/

import WeblogDesk.Desk.Basic
import WeblogDesk.Proofs.Page.Changes

namespace WeblogDesk

open Http Conversation

/-! ## Kinds of commands -/

namespace Command

/-- The member whose role a command changes, with the new role. -/
def edit? : Command → Option (String × Role)
  | .setRole user role => some (user, role)
  | .removeMember user => some (user, .noBlogNeeded)
  | _ => none

/-- The change by which a command adds a user, with the user and the role. -/
def addition? : Command → Option (MembersPage.Change × String × Role)
  | .addMember user role => some (.addUser, user, role)
  | .invite user role => some (.inviteUser, user, role)
  | _ => none

/-- Whether a command is about planets, and not about the members of a weblog. -/
def isAboutPlanets : Command → Bool
  | .planets => true
  | .deletePlanet _ => true
  | _ => false

theorem isAboutPlanets_of_edit? {command : Command} {edit : String × Role}
    (h : command.edit? = some edit) : command.isAboutPlanets = false := by
  cases command <;> first | rfl | cases h

theorem isAboutPlanets_of_addition? {command : Command}
    {addition : MembersPage.Change × String × Role} (h : command.addition? = some addition) :
    command.isAboutPlanets = false := by
  cases command <;> first | rfl | cases h

variable (server : Server) (past : List Exchange) (settings : Settings) (client : Client)
  (input : List UInt8)

/-- A command from its beginning to its end. -/
def carryOut (command : Command) : Conversation Report := do
  (← Desk.perform settings client command).answer input

/-! ## Pages -/

/-- The page of planets as long as its dialog was not opened. -/
def listedPage (planets : List Planet) : PlanetPage :=
  ⟨client, planets, ConfirmDialog.new settings.labels⟩

/-- The question before a planet is deleted. -/
def promptFor (id : String) (planet : Planet) : String :=
  Desk.prompt ((ConfirmDialog.new settings.labels).openFor id planet.title)

/-- The page of a weblog before anything is read. -/
def blankPage (weblog : String) : MembersPage :=
  MembersPage.new client weblog settings.refreshUrl

/-- The page of a weblog when both maps are read. -/
def loadedPage (weblog : String) (roles : RoleMap) (users : PotentialMembers) : MembersPage :=
  { blankPage settings client weblog with
    roles, potential := users, userToAdd := users.leastKey? }

/-- Whether reading the page of a weblog gives these maps. -/
def Loads (weblog : String) (roles : RoleMap) (users : PotentialMembers) : Prop :=
  let members := run server past (client.members weblog)
  members.1 = .ok roles ∧ (run server members.2 (client.potentialMembers weblog)).1 = .ok users

theorem run_load_of_loads {weblog : String} {roles : RoleMap} {users : PotentialMembers}
    (h : Loads server past client weblog roles users) :
    (run server past (blankPage settings client weblog).load).1 =
      (loadedPage settings client weblog roles users, .ok ()) := by
  obtain ⟨hmembers, husers⟩ := h
  rw [MembersPage.run_load]
  simp only [blankPage, MembersPage.new, hmembers, husers]
  rfl

/-- A page that was read shows what both reads gave. -/
theorem load_cases (weblog : String) :
    let reading := run server past (blankPage settings client weblog).load
    (∃ roles users, Loads server past client weblog roles users ∧
        reading.1 = (loadedPage settings client weblog roles users, .ok ())) ∨
      ∃ failure, reading.1.2 = .error failure := by
  intro reading
  cases hmembers : (run server past (client.members weblog)).1 with
  | error failure =>
    refine .inr ⟨failure, ?_⟩
    simp only [reading, MembersPage.run_load, blankPage, MembersPage.new, hmembers]
    rfl
  | ok roles =>
    cases husers : (run server (run server past (client.members weblog)).2
        (client.potentialMembers weblog)).1 with
    | error failure =>
      refine .inr ⟨failure, ?_⟩
      simp only [reading, MembersPage.run_load, blankPage, MembersPage.new, hmembers, husers]
      rfl
    | ok users =>
      have hloads : Loads server past client weblog roles users := ⟨hmembers, husers⟩
      exact .inl ⟨roles, users, hloads, run_load_of_loads server past settings client hloads⟩

/-! ## Commands -/

/-- All that a command can come to: its report, and what is exchanged for it. -/
inductive Does : Command → Report → List Exchange → Prop
  | listed {planets} (h : (run server past client.listPlanets).1 = .ok planets) :
      Does .planets (.success (Report.planetTable (listedPage settings client planets)))
        (exchanged server past client.listPlanets)
  | notListed {command failure} (hc : command.isAboutPlanets = true)
      (h : (run server past client.listPlanets).1 = .error failure) :
      Does command (.ofFailure failure) (exchanged server past client.listPlanets)
  | noPlanet {id planets} (h : (run server past client.listPlanets).1 = .ok planets)
      (hid : planets.find? (·.id == id) = none) :
      Does (.deletePlanet id) (.failure ("no planet with id " ++ id))
        (exchanged server past client.listPlanets)
  | declined {id planets planet} (h : (run server past client.listPlanets).1 = .ok planets)
      (hid : planets.find? (·.id == id) = some planet) (hno : Desk.consents input = false) :
      Does (.deletePlanet id) ((Report.success "").after (promptFor settings id planet))
        (exchanged server past client.listPlanets)
  | deleted {id planets planet} (h : (run server past client.listPlanets).1 = .ok planets)
      (hid : planets.find? (·.id == id) = some planet) (hyes : Desk.consents input = true)
      (hd : (run server (run server past client.listPlanets).2 (client.deletePlanet id)).1 =
        .ok ()) :
      Does (.deletePlanet id)
        ((Report.success (Report.planetTable
          (listedPage settings client (planets.filter (·.id != id))))).after
            (promptFor settings id planet))
        (exchanged server past client.listPlanets ++
          exchanged server (run server past client.listPlanets).2 (client.deletePlanet id))
  | notDeleted {id planets planet failure}
      (h : (run server past client.listPlanets).1 = .ok planets)
      (hid : planets.find? (·.id == id) = some planet) (hyes : Desk.consents input = true)
      (hd : (run server (run server past client.listPlanets).2 (client.deletePlanet id)).1 =
        .error failure) :
      Does (.deletePlanet id) ((Report.ofFailure failure).after (promptFor settings id planet))
        (exchanged server past client.listPlanets ++
          exchanged server (run server past client.listPlanets).2 (client.deletePlanet id))
  | noWeblog {command} (hc : command.isAboutPlanets = false) (hw : settings.weblog = none) :
      Does command (.ofFailure (.config .noWeblog)) []
  | membersListed {weblog roles users} (hw : settings.weblog = some weblog)
      (h : Loads server past client weblog roles users) :
      Does .members
        (.success (Report.memberListing (loadedPage settings client weblog roles users)))
        (exchanged server past (blankPage settings client weblog).load)
  | notRead {command weblog failure} (hc : command = .members ∨ command.edit?.isSome = true)
      (hw : settings.weblog = some weblog)
      (h : (run server past (blankPage settings client weblog).load).1.2 = .error failure) :
      Does command (.ofFailure failure)
        (exchanged server past (blankPage settings client weblog).load)
  | noMember {command user role weblog roles users} (hc : command.edit? = some (user, role))
      (hw : settings.weblog = some weblog) (h : Loads server past client weblog roles users)
      (hm : roles.contains user = false) :
      Does command (.failure (user ++ " is not a member"))
        (exchanged server past (blankPage settings client weblog).load)
  | edited {command user role weblog roles users page reading ends}
      (hc : command.edit? = some (user, role)) (hw : settings.weblog = some weblog)
      (h : Loads server past client weblog roles users) (hm : roles.contains user = true)
      (hpage : page =
        { loadedPage settings client weblog roles users with roles := roles.insert user role })
      (hreading : reading = run server past (blankPage settings client weblog).load)
      (hends : ends = run server reading.2 (page.make .updateRoles)) :
      Does command (.ofOutcome ends.1.1 ends.1.2)
        (exchanged server past (blankPage settings client weblog).load ++
          exchanged server reading.2 (page.make .updateRoles))
  | added {command change user role weblog page ends}
      (hc : command.addition? = some (change, user, role)) (hw : settings.weblog = some weblog)
      (hpage : page =
        { blankPage settings client weblog with userToAdd := some user, roleToAdd := some role })
      (hends : ends = run server past (page.make change)) :
      Does command (.ofOutcome ends.1.1 ends.1.2) (exchanged server past (page.make change))

theorem does_planets :
    Does server past settings client input .planets
      (run server past (carryOut settings client input .planets)).1
      (exchanged server past (carryOut settings client input .planets)) := by
  simp only [carryOut, Desk.perform, Desk.listPlanets, PlanetPage.load, PlanetPage.new, bind_assoc,
    run_bind, exchanged_bind]
  cases h : (run server past client.listPlanets).1 with
  | ok planets =>
    simp only [run_pure, exchanged_pure, List.append_nil, Turn.answer]
    exact .listed h
  | error failure =>
    simp only [run_pure, exchanged_pure, List.append_nil, Turn.answer]
    exact .notListed rfl h

theorem does_deletePlanet (id : String) :
    Does server past settings client input (.deletePlanet id)
      (run server past (carryOut settings client input (.deletePlanet id))).1
      (exchanged server past (carryOut settings client input (.deletePlanet id))) := by
  simp only [carryOut, Desk.perform, Desk.deletePlanet, PlanetPage.load, PlanetPage.new,
    PlanetPage.requestDelete, PlanetPage.planet?, bind_assoc, run_bind, exchanged_bind]
  cases h : (run server past client.listPlanets).1 with
  | error failure =>
    simp only [run_pure, exchanged_pure, List.append_nil, Turn.answer]
    exact .notListed rfl h
  | ok planets =>
    cases hid : planets.find? (·.id == id) with
    | none =>
      simp only [hid, run_pure, exchanged_pure, List.append_nil, Turn.answer]
      exact .noPlanet h hid
    | some planet =>
      simp only [hid, run_pure, exchanged_pure, List.nil_append, Turn.answer, Desk.finishDelete,
        run_bind, exchanged_bind, List.append_nil]
      cases hconsents : Desk.consents input with
      | false =>
        simp only [Bool.false_eq_true, if_false, run_pure, exchanged_pure, List.append_nil]
        exact .declined h hid hconsents
      | true =>
        -- the dialog is open now, so the confirmation sends the deletion
        simp only [if_true, PlanetPage.confirmDelete, ConfirmDialog.openFor, run_bind,
          exchanged_bind]
        cases hd : (run server (run server past client.listPlanets).2
            (client.deletePlanet id)).1 with
        | ok value =>
          simp only [run_pure, exchanged_pure, List.append_nil]
          exact .deleted h hid hconsents hd
        | error failure =>
          simp only [run_pure, exchanged_pure, List.append_nil]
          exact .notDeleted h hid hconsents hd

/-- A command about members is carried out on the page of the weblog, if there is one. -/
theorem carryOut_of_onMembers {command : Command} {runOn : MembersPage → Conversation Report}
    (h : Desk.perform settings client command = Desk.onMembers settings client runOn) :
    carryOut settings client input command =
      match settings.weblog with
      | none => return .ofFailure (.config .noWeblog)
      | some weblog => runOn (blankPage settings client weblog) := by
  rw [carryOut, h, Desk.onMembers, Desk.membersPage]
  cases settings.weblog with
  | none => rfl
  | some weblog =>
    simp only [bind_assoc, pure_bind, Turn.answer]
    exact bind_pure _

theorem does_members :
    Does server past settings client input .members
      (run server past (carryOut settings client input .members)).1
      (exchanged server past (carryOut settings client input .members)) := by
  rw [carryOut_of_onMembers settings client input rfl]
  cases hw : settings.weblog with
  | none => exact .noWeblog rfl hw
  | some weblog =>
    simp only [Desk.listMembers, run_bind, exchanged_bind]
    rcases load_cases server past settings client weblog with
      ⟨roles, users, hloads, hload⟩ | ⟨failure, hload⟩
    · simp only [hload, run_pure, exchanged_pure, List.append_nil]
      exact .membersListed hw hloads
    · cases hends : (run server past (blankPage settings client weblog).load).1 with
      | mk page result =>
        have hresult : result = .error failure := by rw [← hload, hends]
        subst hresult
        simp only [run_pure, exchanged_pure, List.append_nil]
        exact .notRead (.inl rfl) hw hload

/-- Every command that changes a role reads the page, changes it and sends it. -/
theorem does_edit {command : Command} {user : String} {role : Role}
    (hc : command.edit? = some (user, role)) :
    Does server past settings client input command
      (run server past (carryOut settings client input command)).1
      (exchanged server past (carryOut settings client input command)) := by
  have hperform : Desk.perform settings client command =
      Desk.onMembers settings client fun page => Desk.changeRole page user role := by
    cases command <;> cases hc <;> rfl
  rw [carryOut_of_onMembers settings client input hperform]
  cases hw : settings.weblog with
  | none => exact .noWeblog (isAboutPlanets_of_edit? hc) hw
  | some weblog =>
    simp only [Desk.changeRole, run_bind, exchanged_bind]
    rcases load_cases server past settings client weblog with
      ⟨roles, users, hloads, hload⟩ | ⟨failure, hload⟩
    · cases hm : roles.contains user with
      | false =>
        simp only [hload, MembersPage.setRole, loadedPage, hm, Bool.false_eq_true, if_false,
          run_pure, exchanged_pure, List.append_nil]
        exact .noMember hc hw hloads hm
      | true =>
        simp only [hload, MembersPage.setRole, loadedPage, hm, if_true, run_bind, run_pure,
          exchanged_bind_pure]
        exact .edited hc hw hloads hm rfl rfl rfl
    · cases hends : (run server past (blankPage settings client weblog).load).1 with
      | mk page result =>
        have hresult : result = .error failure := by rw [← hload, hends]
        subst hresult
        simp only [run_pure, exchanged_pure, List.append_nil]
        exact .notRead (.inr (by rw [hc]; rfl)) hw hload

/-- Every command that adds a user fills in the form and sends it. -/
theorem does_addition {command : Command} {change : MembersPage.Change} {user : String}
    {role : Role} (hc : command.addition? = some (change, user, role)) :
    Does server past settings client input command
      (run server past (carryOut settings client input command)).1
      (exchanged server past (carryOut settings client input command)) := by
  have hperform : Desk.perform settings client command =
      Desk.onMembers settings client fun page => do
        let made ←
          { page with userToAdd := some user, roleToAdd := some role : MembersPage }.make change
        return .ofOutcome made.1 made.2 := by
    cases command <;> cases hc <;> rfl
  rw [carryOut_of_onMembers settings client input hperform]
  cases hw : settings.weblog with
  | none => exact .noWeblog (isAboutPlanets_of_addition? hc) hw
  | some weblog =>
    simp only [run_bind, run_pure, exchanged_bind_pure]
    exact .added hc hw rfl rfl

/-- Every command comes to one of the things that a command can come to. -/
theorem does_carryOut (command : Command) :
    Does server past settings client input command
      (run server past (carryOut settings client input command)).1
      (exchanged server past (carryOut settings client input command)) := by
  cases command with
  | planets => exact does_planets server past settings client input
  | deletePlanet id => exact does_deletePlanet server past settings client input id
  | members => exact does_members server past settings client input
  | setRole user role => exact does_edit server past settings client input rfl
  | removeMember user => exact does_edit server past settings client input rfl
  | addMember user role => exact does_addition server past settings client input rfl
  | invite user role => exact does_addition server past settings client input rfl

end Command

/-- A run comes to what its command comes to, and sends nothing if its words give no command or the
    settings make no client. -/
theorem Desk.run_cases (server : Server) (past : List Exchange) (idna : Url.Idna)
    (settings : Settings) (words : List String) (input : List UInt8) :
    let report := (Conversation.run server past (Desk.run idna settings words input)).1
    let log := exchanged server past (Desk.run idna settings words input)
    (∃ fault, Command.parse words = .error fault ∧ log = [] ∧
        report = ⟨2, "", Report.line fault.text⟩) ∨
      (∃ command failure, Command.parse words = .ok command ∧
        settings.client idna = .error failure ∧ log = [] ∧ report = .ofFailure failure) ∨
      ∃ command client, Command.parse words = .ok command ∧ settings.client idna = .ok client ∧
        Command.Does server past settings client input command report log := by
  intro report log
  simp only [report, log, Desk.run, Desk.start]
  cases hparse : Command.parse words with
  | error fault => exact .inl ⟨fault, rfl, rfl, rfl⟩
  | ok command =>
    cases hclient : settings.client idna with
    | error failure => exact .inr (.inl ⟨command, failure, rfl, rfl, rfl, rfl⟩)
    | ok client =>
      exact .inr (.inr ⟨command, client, rfl, rfl,
        Command.does_carryOut server past settings client input command⟩)

end WeblogDesk
