/-
  WeblogDesk.Proofs.Page.Reading

  What loading a page comes to, by the answers to its two reads.

  A read is all or nothing: what it gives takes the place of its part of the page, and a
  read that fails, at the connection, by its status or anywhere in its body, leaves
  that part as it was.  The two reads of a load do not look at each other; only what
  is told of the load looks at both, where the first failure counts (`ReadsApart`).
-/

import WeblogDesk.Proofs.Endpoint.Results
import WeblogDesk.Proofs.Json.Maps
import WeblogDesk.Proofs.Page.Roles
import WeblogDesk.Proofs.Page.UserChoice

namespace WeblogDesk

open Http Conversation Json

/-! ## Bodies that are objects -/

/-- Whether the body of an answer is an object with these entries. -/
def Http.Answer.Writes (answer : Answer) (entries : List (String × Value)) : Prop :=
  ∃ r text, answer = .reply r ∧ r.body = text.toUTF8 ∧ Value.parse text = .ok (.object entries)

/-- What reads the body of an answer reads the object that it is. -/
theorem Http.Answer.Gives.of_writes {α : Type} {read : String → Except Fault α} {answer : Answer}
    {entries : List (String × Value)} {a : α} (hgives : answer.Gives read a)
    (hwrites : answer.Writes entries) :
    ∃ text, Value.parse text = .ok (.object entries) ∧ read text = .ok a := by
  obtain ⟨r, text, rfl, hbody, hparse⟩ := hwrites
  obtain ⟨_, hreply, -, -, other, hother, hread⟩ := hgives
  cases hreply
  rw [hbody, String.toUTF8_eq_toByteArray, String.toUTF8_eq_toByteArray,
    String.toByteArray_inj] at hother
  exact ⟨text, hparse, hother ▸ hread⟩

/-- Where roles are read, every value is one. -/
theorem RoleMap.names_of_gives {answer : Answer} {roles : RoleMap}
    (hgives : answer.Gives ofJson roles) {entries : List (String × Value)}
    (hwrites : answer.Writes entries) : ∀ e ∈ entries, ∃ role, e.2.Names role := by
  obtain ⟨text, hparse, hread⟩ := hgives.of_writes hwrites
  obtain ⟨others, hothers, hdict⟩ := ofJson_eq_ok_iff.1 hread
  cases hparse.symm.trans hothers
  simp only [← Role.ofValue?_eq_some_iff]
  exact (dictOfValue?_object_eq_some_iff.1 hdict).1

/-- Where labels are read, every value is a string. -/
theorem PotentialMembers.string_of_gives {answer : Answer} {users : PotentialMembers}
    (hgives : answer.Gives ofJson users) {entries : List (String × Value)}
    (hwrites : answer.Writes entries) : ∀ e ∈ entries, ∃ label, e.2 = .string label := by
  obtain ⟨text, hparse, hread⟩ := hgives.of_writes hwrites
  obtain ⟨others, hothers, hlabels, -⟩ := ofJson_eq_ok_iff.1 hread
  cases hparse.symm.trans hothers
  exact hlabels

/-! ## What a page takes over -/

namespace MembersPage

/-- A page after two reads, and what is told of them. -/
def loaded (page : MembersPage) (roles : Except Failure RoleMap)
    (users : Except Failure PotentialMembers) : MembersPage × Except Failure Unit :=
  ((page.unpicked.takeRoles roles).takePotential users, roles.bind fun _ => users.map fun _ => ())

section Loaded

variable (page : MembersPage) (roles : Except Failure RoleMap)
  (users : Except Failure PotentialMembers)

theorem roles_loaded : (page.loaded roles users).1.roles = roles.toOption.getD page.roles := by
  rw [loaded, roles_takePotential, roles_takeRoles]
  rfl

theorem potential_loaded :
    (page.loaded roles users).1.potential = users.toOption.getD page.potential := by
  rw [loaded, potential_takePotential, potential_takeRoles]
  rfl

theorem userToAdd_loaded :
    (page.loaded roles users).1.userToAdd = users.toOption.bind Dict.leastKey? := by
  rw [loaded, userToAdd_takePotential (userToAdd_takeRoles page.unpicked roles)]

/-- A load changes nothing but what it reads, and the user who is picked. -/
theorem loaded_others :
    let next := (page.loaded roles users).1
    next = { page with
      roles := next.roles, potential := next.potential, userToAdd := next.userToAdd } := by
  cases roles <;> cases users <;> rfl

end Loaded

/-- What two reads make of a page, and what is told of them: each part of the page is taken from its
    own read, whole or not at all. -/
structure ReadsApart (page : MembersPage) (roles : Except Failure RoleMap)
    (users : Except Failure PotentialMembers) (next : MembersPage)
    (result : Except Failure Unit) : Prop where
  rolesRead : ∀ read, roles = .ok read → next.roles = read
  rolesKept : ∀ failure, roles = .error failure → next.roles = page.roles
  usersRead : ∀ read, users = .ok read → next.potential = read
  usersKept : ∀ failure, users = .error failure → next.potential = page.potential
  /-- The user who is picked is the least one who was read. -/
  picked : ∀ user, next.userToAdd = some user ↔
    ∃ read, users = .ok read ∧ user ∈ read.keys ∧ ∀ other ∈ read.keys, user ≤ other
  /-- Nobody is picked if nobody was read. -/
  notPicked : next.userToAdd = none ↔
    (∃ failure, users = .error failure) ∨ ∃ read, users = .ok read ∧ read.keys = []
  others : next = { page with
    roles := next.roles, potential := next.potential, userToAdd := next.userToAdd }
  well : result = .ok () ↔ (∃ read, roles = .ok read) ∧ ∃ read, users = .ok read
  /-- Of two failures the one of the members is told. -/
  failed : ∀ failure, result = .error failure ↔
    roles = .error failure ∨ (∃ read, roles = .ok read) ∧ users = .error failure

theorem readsApart_loaded (page : MembersPage) (roles : Except Failure RoleMap)
    (users : Except Failure PotentialMembers) :
    let ends := page.loaded roles users
    ReadsApart page roles users ends.1 ends.2 where
  rolesRead read h := by rw [roles_loaded, h]; rfl
  rolesKept failure h := by rw [roles_loaded, h]; rfl
  usersRead read h := by rw [potential_loaded, h]; rfl
  usersKept failure h := by rw [potential_loaded, h]; rfl
  picked user := by
    rw [userToAdd_loaded]
    cases users <;> simp [Except.toOption, Dict.leastKey?_eq_some_iff]
  notPicked := by
    rw [userToAdd_loaded]
    cases users <;> simp [Except.toOption, Dict.leastKey?_eq_none_iff]
  others := loaded_others page roles users
  well := by cases roles <;> cases users <;> simp [loaded, Except.bind, Except.map]
  failed failure := by cases roles <;> cases users <;> simp [loaded, Except.bind, Except.map]

/-! ## Loading -/

/-- What the read of the members comes to by its answer. -/
def rolesBy (page : MembersPage) (answer : Answer) : Except Failure RoleMap :=
  page.client.resultOf (.members page.weblog) answer

/-- What the read of the users who may be added comes to by its answer. -/
def usersBy (page : MembersPage) (answer : Answer) : Except Failure PotentialMembers :=
  page.client.resultOf (.potentialMembers page.weblog) answer

section Runs

variable (server : Server) (past : List Exchange) {page : MembersPage}

/-- A load is two calls. -/
theorem run_load_fst (page : MembersPage) :
    let members := run server past (page.client.carryOut (.members page.weblog))
    let users := run server members.2 (page.client.carryOut (.potentialMembers page.weblog))
    (run server past page.load).1 = page.loaded members.1 users.1 :=
  congrArg (·.1) (run_load server past page)

/-- A load over the network is two requests, and all that comes of it is in the answers. -/
theorem load_of_isHttp (h : page.client.base.isHttp = true) :
    let members := page.client.ask server past (.members page.weblog)
    let users := page.client.ask server (past ++ [members]) (.potentialMembers page.weblog)
    exchanged server past page.load = [members, users] ∧
      (run server past page.load).1 =
        page.loaded (page.rolesBy members.answer) (page.usersBy users.answer) := by
  intro members users
  have hmembers : exchanged server past (page.client.members page.weblog) = [members] := by
    rw [Client.exchanged_members, Client.exchanged_perform, if_pos h]
  have hpast : (run server past (page.client.carryOut (.members page.weblog))).2 =
      past ++ [members] := by
    rw [run_snd]
    exact congrArg (past ++ ·) hmembers
  constructor
  · rw [exchanged_load, hmembers, Client.exchanged_potentialMembers, Client.exchanged_perform,
      if_pos h]
    exact congrArg (fun record => [members, page.client.ask server record _]) hpast
  · rw [run_load_fst, Client.run_carryOut server past h, Client.run_carryOut server _ h, hpast]
    rfl

/-- Where nothing can be sent, a load gives up the user who was picked and says that the members
    could not be asked for. -/
theorem load_of_not_isHttp (h : page.client.base.isHttp = false) :
    exchanged server past page.load = [] ∧
      (run server past page.load).1 =
        (page.unpicked, .error (page.client.unsent (.members page.weblog))) := by
  constructor
  · rw [exchanged_load, Client.exchanged_members, Client.exchanged_potentialMembers,
      Client.exchanged_perform, Client.exchanged_perform, h]
    rfl
  · rw [run_load_fst, Client.run_carryOut_of_not_isHttp server past h,
      Client.run_carryOut_of_not_isHttp server _ h]
    rfl

/-- Over the network, a load asks for the members and for the users who may be added, and each
    answer bears on its own part of the page, whole or not at all: a value that is no role, wherever
    it stands in the body, keeps every role out.  Whatever the other answer is, the part is the
    same. -/
theorem load_reads_apart (page : MembersPage) :
    let client := page.client
    let members := client.ask server past (.members page.weblog)
    let users := client.ask server (past ++ [members]) (.potentialMembers page.weblog)
    let ends := (run server past page.load).1
    (client.base.isHttp = true →
      exchanged server past page.load = [members, users] ∧
      (∃ (roles : Except Failure RoleMap) (potential : Except Failure PotentialMembers),
        (Call.members page.weblog).Settled members.request.url members.answer roles ∧
        (Call.potentialMembers page.weblog).Settled users.request.url users.answer potential ∧
        ReadsApart page roles potential ends.1 ends.2) ∧
      (∀ entries, members.answer.Writes entries → (∃ e ∈ entries, ∀ role, ¬e.2.Names role) →
        ends.1.roles = page.roles) ∧
      (∀ entries, users.answer.Writes entries → (∃ e ∈ entries, ∀ label, e.2 ≠ .string label) →
        ends.1.potential = page.potential ∧ ends.1.userToAdd = none) ∧
      ∀ (other : Server) (record : List Exchange),
        let otherMembers := client.ask other record (.members page.weblog)
        let otherUsers :=
          client.ask other (record ++ [otherMembers]) (.potentialMembers page.weblog)
        let otherEnds := (run other record page.load).1
        (otherMembers.answer = members.answer → otherEnds.1.roles = ends.1.roles) ∧
          (otherUsers.answer = users.answer → otherEnds.1.potential = ends.1.potential ∧
            otherEnds.1.userToAdd = ends.1.userToAdd)) ∧
    (client.base.isHttp = false →
      exchanged server past page.load = [] ∧
        ends = (page.unpicked, .error (client.unsent (.members page.weblog)))) := by
  intro client members users ends
  refine ⟨fun h => ?_, load_of_not_isHttp server past⟩
  obtain ⟨hlog, hends⟩ : exchanged server past page.load = [members, users] ∧
      ends = page.loaded (page.rolesBy members.answer) (page.usersBy users.answer) :=
    load_of_isHttp server past h
  have hmembers := client.settled_resultOf (.members page.weblog) members.answer
  have husers := client.settled_resultOf (.potentialMembers page.weblog) users.answer
  have hapart := readsApart_loaded page (page.rolesBy members.answer) (page.usersBy users.answer)
  rw [← hends] at hapart
  refine ⟨hlog, ⟨_, _, hmembers, husers, hapart⟩, ?_, ?_, ?_⟩
  · rintro entries hwrites ⟨e, he, hno⟩
    cases hresult : page.rolesBy members.answer with
    | error failure => exact hapart.rolesKept failure hresult
    | ok read =>
      obtain ⟨role, hrole⟩ :=
        RoleMap.names_of_gives ((hmembers.ok read).1 hresult) hwrites e he
      exact absurd hrole (hno role)
  · rintro entries hwrites ⟨e, he, hno⟩
    cases hresult : page.usersBy users.answer with
    | error failure =>
      exact ⟨hapart.usersKept failure hresult, hapart.notPicked.2 (.inl ⟨failure, hresult⟩)⟩
    | ok read =>
      obtain ⟨label, hlabel⟩ :=
        PotentialMembers.string_of_gives ((husers.ok read).1 hresult) hwrites e he
      exact absurd hlabel (hno label)
  · intro other record otherMembers otherUsers otherEnds
    have hother : otherEnds =
        page.loaded (page.rolesBy otherMembers.answer) (page.usersBy otherUsers.answer) :=
      (load_of_isHttp other record h).2
    rw [hother, hends]
    simp only [roles_loaded, potential_loaded, userToAdd_loaded]
    refine ⟨fun hsame => ?_, fun hsame => ?_⟩
    · rw [hsame]
    · rw [hsame]
      exact ⟨rfl, rfl⟩

end Runs

/-- The second of two members has no role, so the first is not taken over either, and the load
    fails.  The users who may be added are, and one of them is picked. -/
theorem load_reads_apart_of_late_fault :
    let page := { new Client.onLocalhost "w" "/login" with
      roles := Dict.ofEntries [("m", .owner)], userToAdd := some "old" }
    let late := [("a", Value.string "POST"), ("b", Value.string "NONE")]
    let alice : PotentialMembers := Dict.ofEntries [("u1", "Alice")]
    let server : Server := fun _ request =>
      if request.Asks .get "members" then .reply ⟨200, (Value.object late).compact.toUTF8, true⟩
      else .reply ⟨200, alice.toJson.compact.toUTF8, true⟩
    let ends := (run server [] page.load).1
    page.client.base.isHttp = true ∧ ends.1.roles = page.roles ∧ ends.1.potential = alice ∧
      ends.1.userToAdd = some "u1" ∧ ends.2 = .error (.decode .body) := by
  intro page late alice server ends
  have hhttp : page.client.base.isHttp = true := by rfl
  obtain ⟨-, ⟨roles, potential, hroles, hpotential, hapart⟩, hbad, -, -⟩ :=
    (load_reads_apart server [] page).1 hhttp
  have hmembers : (page.client.ask server [] (.members "w")).answer =
      .reply ⟨200, (Value.object late).compact.toUTF8, true⟩ := by rfl
  have hother : ¬(page.client.request (.potentialMembers "w")).Asks .get "members" := by
    rw [Client.request_asks_iff hhttp rfl]
    simp [Call.names]
  have hwrites : (page.client.ask server [] (.members "w")).answer.Writes late :=
    ⟨_, _, hmembers, rfl,
      readWhole_compact_of_within (.object (by simp [late, Value.Within.string]))⟩
  have hnoRole (role : Role) : ¬Value.Names (.string "NONE") role := by
    intro hnames
    cases Role.ofValue?_eq_some_iff.2 hnames
  have hfault : roles = .error (.decode .body) := by
    refine (hroles.decode .body).2 ⟨_, hmembers, rfl, fun read hsays => ?_, rfl⟩
    obtain ⟨role, hrole⟩ := RoleMap.names_of_gives ⟨_, hmembers, rfl, hsays⟩ hwrites
      ("b", .string "NONE") (by simp [late])
    exact hnoRole role hrole
  have halice : potential = .ok alice :=
    (hpotential.ok alice).2
      ⟨_, if_neg hother, rfl, rfl, _, rfl, PotentialMembers.ofJson_compact alice⟩
  refine ⟨hhttp, hbad late hwrites ⟨("b", .string "NONE"), by simp [late], hnoRole⟩,
    hapart.usersRead alice halice, (hapart.picked "u1").2 ⟨alice, halice, ?_⟩,
    (hapart.failed _).2 (.inl hfault)⟩
  decide +kernel

end MembersPage
end WeblogDesk
