/-
  WeblogDesk.Proofs.Page.Requests

  What a client that was made never does, in any run.

  Every request of a run is the request of some call, so it carries the cookie of
  the client and no other.  A call asks again whether the base URL can be extended,
  and fails because of the settings if it cannot, and never otherwise
  (`blamesConfig_carryOut_iff`): no answer tells of them.  A page keeps its client
  through every action, so what was found when the client was made holds for all
  that is done later.
-/

import WeblogDesk.Proofs.Endpoint.Construction
import WeblogDesk.Proofs.Endpoint.Results
import WeblogDesk.Proofs.Page.Changes
import WeblogDesk.Proofs.Planets.Runs

namespace WeblogDesk

open Http Conversation

/-! ## Calls -/

/-- Whether a failure tells of the settings. -/
def Failure.IsConfig (failure : Failure) : Prop :=
  ∃ cause, failure = .config cause

/-- Whether a result fails because of the settings. -/
def BlamesConfig {α : Type} (result : Except Failure α) : Prop :=
  ∃ failure, result = .error failure ∧ failure.IsConfig

namespace Client

variable (server : Server) (past : List Exchange) (client : Client)

/-- Whether some exchanges are calls of a client. -/
def Sends (log : List Exchange) : Prop :=
  ∀ e ∈ log, ∃ call, e.request = client.request call

variable {client}

theorem Sends.append {log later : List Exchange} (h : client.Sends log)
    (hlater : client.Sends later) : client.Sends (log ++ later) :=
  List.forall_mem_append.2 ⟨h, hlater⟩

theorem sends_nil : client.Sends [] := by
  intro e he
  cases he

variable (client)

theorem sends_perform (call : Call) :
    client.Sends (exchanged server past (client.perform call)) := by
  intro e he
  exact ⟨call, request_of_mem_perform server past client he⟩

theorem sends_carryOut (call : Call) :
    client.Sends (exchanged server past (client.carryOut call)) := by
  rw [carryOut_eq, exchanged_bind_pure]
  exact sends_perform server past client call

/-- No status tells of the settings. -/
theorem not_isConfig_ofStatus (code : Nat) (body : String) :
    ¬(Failure.ofStatus code body).IsConfig := by
  rintro ⟨cause, h⟩
  unfold Failure.ofStatus at h
  split at h
  · cases h
  · split at h <;> cases h

/-- A call that is sent never tells of the settings: what it says comes of the answer, or of the
    body. -/
theorem not_blamesConfig_of_readsBody {α : Type} {read : Reply → Except Failure α}
    {Says : Reply → α → Prop} (hreads : ReadsBody read Says) (r : Request) (answer : Answer) :
    ¬BlamesConfig ((check r answer).bind read) := by
  rintro ⟨failure, hresult, cause, hconfig⟩
  cases answer with
  | dropped =>
    cases hresult
    cases hconfig
  | reply reply =>
    rw [check] at hresult
    split at hresult
    · obtain rfl := hreads.error reply failure hresult
      cases hconfig
    · cases hresult
      exact not_isConfig_ofStatus _ _ ⟨cause, hconfig⟩

/-- A call that is not sent tells of the settings if the base URL cannot be extended. -/
theorem blamesConfig_unsent_iff {α : Type} (call : Call) :
    BlamesConfig (.error (client.unsent call) : Except Failure α) ↔
      client.base.isRooted = false := by
  unfold unsent
  cases client.base.isRooted with
  | true =>
    refine iff_of_false ?_ Bool.noConfusion
    rintro ⟨failure, hresult, cause, hconfig⟩
    cases hresult
    cases hconfig
  | false => exact iff_of_true ⟨_, rfl, _, rfl⟩ rfl

/-- A call that reads the body of its reply tells of the settings if and only if the base URL cannot
    be extended. -/
theorem blamesConfig_reading_iff {α : Type} {read : Reply → Except Failure α}
    {Says : Reply → α → Prop} (hreads : ReadsBody read Says) (call : Call) :
    BlamesConfig (run server past (do return (← client.perform call).bind read)).1 ↔
      client.base.isRooted = false := by
  rw [run_bind, run_pure, run_perform]
  split
  · next hhttp =>
    rw [Url.isRooted_of_isHttp hhttp]
    exact iff_of_false (not_blamesConfig_of_readsBody hreads _ _) Bool.noConfusion
  · exact blamesConfig_unsent_iff client call

theorem blamesConfig_carryOut_iff (call : Call) :
    BlamesConfig (run server past (client.carryOut call)).1 ↔ client.base.isRooted = false := by
  rw [carryOut_eq]
  exact blamesConfig_reading_iff server past client call.readsBody call

theorem blamesConfig_change_iff (call : Call) :
    BlamesConfig (run server past (client.change call)).1 ↔ client.base.isRooted = false :=
  blamesConfig_reading_iff server past client readsBody_readMessage call

/-- Without a path to extend, listing the planets tells of the settings, whatever a server says. -/
example :
    let client : Client := ⟨⟨"mailto".toList, .rootless "admin".toList, [], none, none⟩, none⟩
    (run (fun _ _ => .dropped) [] client.listPlanets).1 =
      .error (.config (.noPath "mailto:admin")) := by
  rfl

end Client

/-! ## The page of planets -/

namespace PlanetPage

variable {server : Server} {past : List Exchange} {page next : PlanetPage} {action : Action}
  {result : Result} {log : List Exchange}

/-- The failure that an action answers, if it fails. -/
def Result.failure? : Result → Option Failure
  | .read (.error failure) => some failure
  | .deleted (.error failure) => some failure
  | _ => none

theorem Acts.sends (h : Acts server past page action next result log) : page.client.Sends log := by
  have hread := Client.sends_carryOut server past page.client .listPlanets
  have hdelete (id : String) := Client.sends_carryOut server past page.client (.deletePlanet id)
  cases h with
  | read _ => exact hread
  | notRead _ => exact hread
  | deleted _ _ _ => exact hdelete _
  | notDeleted _ _ _ => exact hdelete _
  | _ => exact Client.sends_nil

/-- An action that fails because of the settings does so because of the base URL. -/
theorem Acts.isRooted_eq_false (h : Acts server past page action next result log)
    {failure : Failure} (hfailure : result.failure? = some failure) (hconfig : failure.IsConfig) :
    page.client.base.isRooted = false := by
  have hcall (call : Call)
      (hresult : (run server past (page.client.carryOut call)).1 = .error failure) :=
    (Client.blamesConfig_carryOut_iff server past page.client call).1 ⟨_, hresult, hconfig⟩
  cases h with
  | notRead hresult =>
    cases hfailure
    exact hcall .listPlanets hresult
  | notDeleted _ _ hresult =>
    cases hfailure
    exact hcall (.deletePlanet _) hresult
  | _ => cases hfailure

/-- A run only sends calls of the client, and tells of the settings only if the base URL cannot be
    extended. -/
theorem sends_actAll (server : Server) (past : List Exchange) (client : Client) (labels : Labels)
    (actions : List Action) :
    let c := (new client labels).actAll actions
    (∀ result ∈ (run server past c).1.2, ∀ failure, result.failure? = some failure →
        failure.IsConfig → client.base.isRooted = false) ∧
      client.Sends (exchanged server past c) := by
  intro c
  rw [show c = (new client labels).actAll actions from rfl, actAll_eq_inTurn]
  refine forall_inTurn act server past (new client labels) (I := fun page => page.client = client)
    ?_ rfl actions
  rintro past page action rfl
  have hacts := acts_act server past page action
  exact ⟨hacts.client, fun _ => hacts.isRooted_eq_false, hacts.sends⟩

end PlanetPage

/-! ## The page of members -/

namespace MembersPage

variable {server : Server} {past : List Exchange} {page next : MembersPage} {action : Action}
  {result : Result} {log : List Exchange}

/-- The failure that an action answers, if it fails. -/
def Result.failure? : Result → Option Failure
  | .read (.error failure) => some failure
  | .outcome (.failed failure) => some failure
  | _ => none

theorem sends_load (server : Server) (past : List Exchange) (page : MembersPage) :
    page.client.Sends (exchanged server past page.load) := by
  rw [exchanged_load]
  exact (Client.sends_carryOut server past page.client (.members page.weblog)).append
    (Client.sends_carryOut server _ page.client (.potentialMembers page.weblog))

theorem sends_change (server : Server) (past : List Exchange) (page : MembersPage) (call : Call) :
    page.client.Sends (exchanged server past (page.client.change call)) := by
  rw [Client.exchanged_change]
  exact Client.sends_perform server past page.client call

theorem Acts.sends (h : Acts server past page action next result log) : page.client.Sends log := by
  cases h with
  | load hm hu => exact sends_load server past page
  | loadPotential hu =>
    rw [exchanged_loadPotential]
    exact Client.sends_carryOut server past page.client (.potentialMembers page.weblog)
  | made ha hc =>
    rename_i call following message
    -- the page that reloads asks as the page before
    have hclient : (following.announce message).client = page.client :=
      congrArg (·.1) (origin_announce_submission page ha message)
    exact (sends_change server past page call).append (hclient ▸ sends_load server _ _)
  | notMade ha hc => exact sends_change server past page _
  | _ => exact Client.sends_nil

/-- An action that fails because of the settings does so because of the base URL. -/
theorem Acts.isRooted_eq_false (h : Acts server past page action next result log)
    {failure : Failure} (hfailure : result.failure? = some failure) (hconfig : failure.IsConfig) :
    page.client.base.isRooted = false := by
  have hcall {past : List Exchange} (call : Call)
      (hresult : (run server past (page.client.carryOut call)).1 = .error failure) :=
    (Client.blamesConfig_carryOut_iff server past page.client call).1 ⟨_, hresult, hconfig⟩
  cases h with
  | load hm hu =>
    rename_i members users
    -- of two failures the first is told
    cases hfirst : members.1 with
    | error first =>
      rw [hfirst] at hfailure
      cases hfailure
      exact hcall (.members page.weblog) (hm ▸ hfirst)
    | ok roles =>
      cases hsecond : users.1 with
      | error second =>
        rw [hfirst, hsecond] at hfailure
        cases hfailure
        exact hcall (.potentialMembers page.weblog) (hu ▸ hsecond)
      | ok read =>
        rw [hfirst, hsecond] at hfailure
        cases hfailure
  | loadPotential hu =>
    rename_i users
    cases hread : users.1 with
    | error failure =>
      rw [hread] at hfailure
      cases hfailure
      exact hcall (.potentialMembers page.weblog) (hu ▸ hread)
    | ok read =>
      rw [hread] at hfailure
      cases hfailure
  | notMade ha hc =>
    rename_i told
    have htold : told = failure := by cases told <;> cases hfailure <;> rfl
    subst htold
    exact (Client.blamesConfig_change_iff server past page.client _).1 ⟨_, hc, hconfig⟩
  | _ => cases hfailure

/-- A run only sends calls of the client, and tells of the settings only if the base URL cannot be
    extended. -/
theorem sends_actAll (server : Server) (past : List Exchange) (client : Client)
    (weblog refreshUrl : String) (actions : List Action) :
    let c := (new client weblog refreshUrl).actAll actions
    (∀ result ∈ (run server past c).1.2, ∀ failure, result.failure? = some failure →
        failure.IsConfig → client.base.isRooted = false) ∧
      client.Sends (exchanged server past c) := by
  intro c
  rw [show c = (new client weblog refreshUrl).actAll actions from rfl, actAll_eq_inTurn]
  refine forall_inTurn act server past (new client weblog refreshUrl)
    (I := fun page => page.client = client) ?_ rfl actions
  rintro past page action rfl
  have hacts := acts_act server past page action
  exact ⟨congrArg (·.1) hacts.origin, fun _ => hacts.isRooted_eq_false, hacts.sends⟩

end MembersPage

/-! ## Clients that were made -/

namespace Client

open Session

/-- Whether nothing about the settings of a client can fail any more: every URL can be made, no call
    and no run of a page tells of the settings, and all that is ever sent carries the cookie of the
    session, which holds no line break. -/
structure Validated (client : Client) (session : Option String) : Prop where
  endpoint : ∀ tree names, ∃ url, client.endpoint tree names = .ok url
  call : ∀ server past call, ¬BlamesConfig (run server past (client.carryOut call)).1
  planets : ∀ server past labels actions,
    ∀ result ∈ (run server past ((PlanetPage.new client labels).actAll actions)).1.2,
      ∀ failure, result.failure? = some failure → ¬failure.IsConfig
  members : ∀ server past weblog refreshUrl actions,
    ∀ result ∈ (run server past ((MembersPage.new client weblog refreshUrl).actAll actions)).1.2,
      ∀ failure, result.failure? = some failure → ¬failure.IsConfig
  callCookie : ∀ server past call, ∀ e ∈ exchanged server past (client.carryOut call),
    e.request.cookie = session.map ("JSESSIONID=" ++ ·)
  planetsCookie : ∀ server past labels actions,
    ∀ e ∈ exchanged server past ((PlanetPage.new client labels).actAll actions),
      e.request.cookie = session.map ("JSESSIONID=" ++ ·)
  membersCookie : ∀ server past weblog refreshUrl actions,
    ∀ e ∈ exchanged server past ((MembersPage.new client weblog refreshUrl).actAll actions),
      e.request.cookie = session.map ("JSESSIONID=" ++ ·)
  noControl : ∀ cookie ∈ session.map ("JSESSIONID=" ++ ·), ¬HoldsControl cookie

/-- What is sent carries the cookie of the client. -/
theorem Sends.cookie {client : Client} {log : List Exchange} (h : client.Sends log) {e : Exchange}
    (he : e ∈ log) : e.request.cookie = client.cookie := by
  obtain ⟨call, hcall⟩ := h e he
  rw [hcall]
  rfl

/-- That the base URL can be extended was asked when the client was made, and neither a call nor an
    action on a page changes the client. -/
theorem validated_of_new {idna : Url.Idna} {base : String} {session : Option String}
    {client : Client} (h : Client.new idna base session = .ok client) :
    client.Validated session := by
  have hrooted := isRooted_of_new h
  have hnot : client.base.isRooted ≠ false := by
    rw [hrooted]
    exact Bool.noConfusion
  obtain ⟨-, hsession, hcookie⟩ := new_eq_ok_iff.1 h
  have hsent {log : List Exchange} (hlog : client.Sends log) :
      ∀ e ∈ log, e.request.cookie = session.map ("JSESSIONID=" ++ ·) :=
    fun e he => (hlog.cookie he).trans hcookie
  constructor
  case endpoint => exact fun tree names => ⟨_, if_pos hrooted⟩
  case call =>
    exact fun server past call => hnot ∘ (blamesConfig_carryOut_iff server past client call).1
  case planets =>
    intro server past labels actions result hresult failure hfailure
    exact hnot ∘ (PlanetPage.sends_actAll server past client labels actions).1 result hresult
      failure hfailure
  case members =>
    intro server past weblog refreshUrl actions result hresult failure hfailure
    exact hnot ∘ (MembersPage.sends_actAll server past client weblog refreshUrl actions).1 result
      hresult failure hfailure
  case callCookie => exact fun server past call => hsent (sends_carryOut server past client call)
  case planetsCookie =>
    exact fun server past labels actions => hsent (PlanetPage.sends_actAll _ _ _ _ _).2
  case membersCookie =>
    exact fun server past weblog refreshUrl actions =>
      hsent (MembersPage.sends_actAll _ _ _ _ _ _).2
  case noControl =>
    intro cookie hmem
    obtain ⟨id, hid, rfl⟩ := Option.map_eq_some_iff.1 hmem
    exact not_holdsControl_cookie (hsession id hid)

/-- A client is made unless its base URL or its session id is at fault, and then the first of these
    faults is told: the text is no URL, the URL has no path, or the session id holds a control
    other than the tab.  Once it is made, nothing about the settings fails any more, and all that
    is ever sent carries the one cookie of the session. -/
theorem new_validates (idna : Url.Idna) (base : String) (session : Option String) :
    (∀ failure, Client.new idna base session = .error failure ↔
      (∃ fault, Url.parse idna base = .error fault ∧ failure = .config (.badUrl base fault)) ∨
      (∃ url, Url.parse idna base = .ok url ∧ ¬url.IsHierarchical ∧
        failure = .config (.noPath url.render)) ∨
      (∃ url, Url.parse idna base = .ok url ∧ url.IsHierarchical ∧
        (∃ id, session = some id ∧ HoldsControl id) ∧ failure = .config .badCookie)) ∧
      ∀ client, Client.new idna base session = .ok client → client.Validated session :=
  ⟨fun _ => new_eq_error_iff, fun _ => validated_of_new⟩

end Client
end WeblogDesk
