/-
  WeblogDesk.Proofs.Endpoint.Requests

  What a call puts on the record, and what its answer is worth.

  A call to a server of the network is one exchange.  Any other call is none, and its
  failure says whether the base URL takes no path or belongs to no network.
  Calls about a weblog can be told from their request alone, by its method and the
  last segment of its path.  `Answer.json?` is what a reading call makes of an
  answer.
-/

import WeblogDesk.Proofs.Endpoint.Place
import WeblogDesk.Proofs.Http.Transcript

namespace WeblogDesk

namespace Http

/-! ## Requests and answers -/

/-- Whether a request has the method, and a path that ends with the segment. -/
def Request.Asks (r : Request) (method : Method) (last : String) : Prop :=
  r.method = method ∧ r.url.path.getLast? = some last.toList

instance (r : Request) (method : Method) (last : String) : Decidable (r.Asks method last) := by
  unfold Request.Asks
  infer_instance

/-- What an answer gives that is read as JSON: the status is a success, and the body has
    arrived in full, is UTF-8 and reads well. -/
def Answer.json? {α : Type} (read : String → Except Json.Fault α) : Answer → Option α
  | .dropped => none
  | .reply r =>
    if Http.isSuccess r.status && r.complete then
      (String.fromUTF8? r.body).bind fun text => (read text).toOption
    else none

/-- A text is read back from its bytes. -/
theorem fromUTF8?_toUTF8 (text : String) : String.fromUTF8? text.toUTF8 = some text := by
  rw [String.fromUTF8?, String.toUTF8_eq_toByteArray, dif_pos text.isValidUTF8]
  rfl

/-- A success that has arrived in full gives what its text says. -/
theorem Answer.json?_toUTF8 {α : Type} {read : String → Except Json.Fault α} {text : String}
    {a : α} (h : read text = .ok a) :
    (Answer.reply ⟨200, text.toUTF8, true⟩).json? read = some a := by
  rw [json?]
  show (String.fromUTF8? text.toUTF8).bind _ = _
  rw [fromUTF8?_toUTF8, Option.bind_some, h]
  rfl

end Http

open Http Conversation

@[simp] theorem Url.path_withoutUserinfo (u : Url) : u.withoutUserinfo.path = u.path := by
  unfold withoutUserinfo
  split
  · split <;> rfl
  · rfl

@[simp] theorem Url.isHttp_withoutUserinfo (u : Url) : u.withoutUserinfo.isHttp = u.isHttp := by
  unfold withoutUserinfo
  split
  · next a hlead =>
    split
    · rw [isHttp, isHttp, hasHost, hasHost, hlead]
    · rfl
  · rfl

@[simp] theorem Url.isHttp_extend (u : Url) (names : List String) :
    (u.extend names).isHttp = u.isHttp :=
  rfl

/-- The last segment of a call about a weblog is its last name. -/
theorem Call.getLast?_below {call : Call} (h : call.tree = authoringTree) :
    call.below.getLast? = call.names.getLast?.map (·.toList) := by
  cases call <;> simp [tree, adminTree, authoringTree, below, names] at h ⊢

namespace Client

variable (server : Server) (past : List Exchange) (client : Client)

/-! ## Requests of calls -/

/-- The request of a call to its place. -/
def request (call : Call) : Request :=
  client.requestTo (client.place call) call

/-- Why a call is not sent: the base URL cannot be extended, or it is not one of the network's. -/
def unsent (call : Call) : Failure :=
  if client.base.isRooted then .transport (.notHttp (client.request call).url)
  else .config (.noPath client.base.render)

theorem isHttp_request (call : Call) : (client.request call).url.isHttp = client.base.isHttp := by
  rw [request, requestTo, Url.isHttp_withoutUserinfo, place, Url.isHttp_extend]

/-- The path that a request asks for. -/
theorem path_request {client : Client} (h : client.base.isHttp = true) (call : Call) :
    (client.request call).url.path =
      Url.Path.stem client.base.path ++ call.treePath ++ call.below := by
  rw [request, requestTo, Url.path_withoutUserinfo, place_eq h]

/-- A call to a server of the network sends its request, and any other call nothing. -/
theorem perform_eq (call : Call) :
    client.perform call =
      if client.base.isHttp then do
        return check (client.request call) (← send (client.request call))
      else return .error (client.unsent call) := by
  rw [perform, unsent]
  cases hrooted : client.base.isRooted with
  | true =>
    rw [url_of_isRooted hrooted]
    show (if (client.request call).url.isHttp then _ else _) = _
    rw [isHttp_request]
    rfl
  | false =>
    have hhttp : client.base.isHttp = false := by
      refine Bool.eq_false_iff.2 fun h => ?_
      rw [Url.isRooted_of_isHttp h] at hrooted
      cases hrooted
    rw [url_of_not_isRooted hrooted, hhttp]
    rfl

/-- Calls about a weblog are told by method and last name. -/
theorem request_asks_iff {client : Client} (h : client.base.isHttp = true) {call : Call}
    (htree : call.tree = Call.authoringTree) (method : Method) (last : String) :
    (client.request call).Asks method last ↔
      call.method = method ∧ call.names.getLast? = some last := by
  -- what a call puts below the tree is not empty, so the path ends as the call does
  have hbelow := Call.getLast?_below htree
  have hsome : call.names.getLast?.isSome = true := by cases call <;> rfl
  obtain ⟨name, hname⟩ := Option.isSome_iff_exists.1 hsome
  have hpath : (client.request call).url.path.getLast? = some name.toList := by
    rw [path_request h, List.getLast?_append, hbelow, hname]
    rfl
  rw [Request.Asks, hpath, hname, Option.some_inj, Option.some_inj, String.toList_inj]
  rfl

/-! ## Calls in a run -/

/-- A call and what comes of it. -/
def ask (call : Call) : Exchange :=
  ⟨client.request call, server past (client.request call)⟩

theorem exchanged_perform (call : Call) :
    exchanged server past (client.perform call) =
      if client.base.isHttp then [client.ask server past call] else [] := by
  rw [perform_eq]
  split
  · rw [exchanged_bind, exchanged_send, exchanged_pure, List.append_nil]
    rfl
  · rfl

/-- What a call sends is the request of the call. -/
theorem request_of_mem_perform {call : Call} {e : Exchange}
    (h : e ∈ exchanged server past (client.perform call)) : e.request = client.request call := by
  rw [exchanged_perform] at h
  split at h
  · rw [List.mem_singleton.1 h]
    rfl
  · cases h

/-- What is sent is sent over the network. -/
theorem isHttp_of_mem_perform {call : Call} {e : Exchange}
    (h : e ∈ exchanged server past (client.perform call)) : client.base.isHttp = true := by
  rw [exchanged_perform] at h
  split at h
  · assumption
  · cases h

theorem length_exchanged_perform (call : Call) :
    (exchanged server past (client.perform call)).length ≤ 1 := by
  rw [exchanged_perform]
  split <;> simp

theorem run_perform (call : Call) :
    (run server past (client.perform call)).1 =
      if client.base.isHttp then check (client.request call) (client.ask server past call).answer
      else .error (client.unsent call) := by
  rw [perform_eq]
  split
  · rw [run_bind, run_send, run_pure]
    rfl
  · rfl

/-- Reading the body of a reply as JSON succeeds if the body is there, UTF-8, and reads well. -/
theorem toOption_readJson {α : Type} (read : String → Except Json.Fault α) (reply : Reply) :
    (readJson read reply).toOption =
      if reply.complete then (String.fromUTF8? reply.body).bind fun text => (read text).toOption
      else none := by
  unfold readJson
  cases reply.complete with
  | false => rfl
  | true =>
    simp only [if_true]
    cases String.fromUTF8? reply.body with
    | none => rfl
    | some text =>
      simp only [Option.map_some, Option.bind_some]
      cases read text <;> rfl

/-- Reading an answer as JSON succeeds on what the answer gives. -/
theorem toOption_check_bind {α : Type} (read : String → Except Json.Fault α) (r : Request)
    (answer : Answer) :
    ((check r answer).bind (readJson read)).toOption = answer.json? read := by
  cases answer with
  | dropped => rfl
  | reply reply =>
    rw [check, Answer.json?]
    cases isSuccess reply.status with
    | false => rfl
    | true =>
      rw [Bool.true_and]
      exact toOption_readJson read reply

/-! ## Calls that read -/

/-- A call that reads JSON gives what its answer gives. -/
theorem toOption_run_reading {α : Type} (read : String → Except Json.Fault α) (call : Call) :
    (run server past (do return (← client.perform call).bind (readJson read))).1.toOption =
      if client.base.isHttp then (client.ask server past call).answer.json? read else none := by
  rw [run_bind, run_pure, run_perform]
  split
  · exact toOption_check_bind _ _ _
  · rfl

theorem exchanged_listPlanets :
    exchanged server past client.listPlanets =
      exchanged server past (client.perform .listPlanets) :=
  exchanged_bind_pure _ _ _ _

/-- The planets that are read are those that the answer gives. -/
theorem toOption_run_listPlanets :
    (run server past client.listPlanets).1.toOption =
      if client.base.isHttp then
        (client.ask server past .listPlanets).answer.json? Planet.listOfJson
      else none :=
  toOption_run_reading server past client _ _

/-- What reads planets is a call over the network, and its answer gives them. -/
theorem exchanged_listPlanets_of_ok {planets : List Planet}
    (h : (run server past client.listPlanets).1 = .ok planets) :
    exchanged server past client.listPlanets = [client.ask server past .listPlanets] ∧
      (client.ask server past .listPlanets).answer.json? Planet.listOfJson = some planets := by
  have hread := toOption_run_listPlanets server past client
  rw [h] at hread
  rw [exchanged_listPlanets, exchanged_perform]
  by_cases hhttp : client.base.isHttp = true
  · rw [if_pos hhttp] at hread ⊢
    exact ⟨rfl, hread.symm⟩
  · rw [if_neg hhttp] at hread
    cases hread

variable (weblog : String)

theorem exchanged_members :
    exchanged server past (client.members weblog) =
      exchanged server past (client.perform (.members weblog)) :=
  exchanged_bind_pure _ _ _ _

/-- The members that are read are those that the answer gives. -/
theorem toOption_run_members :
    (run server past (client.members weblog)).1.toOption =
      if client.base.isHttp then
        (client.ask server past (.members weblog)).answer.json? RoleMap.ofJson
      else none :=
  toOption_run_reading server past client _ _

theorem exchanged_potentialMembers :
    exchanged server past (client.potentialMembers weblog) =
      exchanged server past (client.perform (.potentialMembers weblog)) :=
  exchanged_bind_pure _ _ _ _

/-- The potential members that are read are those that the answer gives. -/
theorem toOption_run_potentialMembers :
    (run server past (client.potentialMembers weblog)).1.toOption =
      if client.base.isHttp then
        (client.ask server past (.potentialMembers weblog)).answer.json? PotentialMembers.ofJson
      else none :=
  toOption_run_reading server past client _ _

/-! ## Calls that change something -/

theorem exchanged_deletePlanet (id : String) :
    exchanged server past (client.deletePlanet id) =
      exchanged server past (client.perform (.deletePlanet id)) :=
  exchanged_bind_pure _ _ _ _

/-- What deletes a planet is a call over the network. -/
theorem exchanged_deletePlanet_of_ok {id : String}
    (h : (run server past (client.deletePlanet id)).1 = .ok ()) :
    exchanged server past (client.deletePlanet id) =
      [client.ask server past (.deletePlanet id)] := by
  rw [exchanged_deletePlanet, exchanged_perform]
  by_cases hhttp : client.base.isHttp = true
  · exact if_pos hhttp
  · rw [deletePlanet, run_bind, run_pure, run_perform, if_neg hhttp] at h
    cases h

theorem exchanged_change (call : Call) :
    exchanged server past (client.change call) =
      exchanged server past (client.perform call) :=
  exchanged_bind_pure _ _ _ _

theorem exchanged_change_of_isHttp {client : Client} (h : client.base.isHttp = true) (call : Call) :
    exchanged server past (client.change call) = [client.ask server past call] := by
  rw [exchanged_change, exchanged_perform, if_pos h]

/-- What comes of a change is what its answer means. -/
theorem run_change {client : Client} (h : client.base.isHttp = true) (call : Call) :
    (run server past (client.change call)).1 =
      (check (client.request call) (client.ask server past call).answer).bind readMessage := by
  rw [change, run_bind, run_pure, run_perform, if_pos h]

/-- A change that cannot be sent fails. -/
theorem run_change_of_not_isHttp {client : Client} (h : client.base.isHttp = false) (call : Call) :
    (run server past (client.change call)).1 = .error (client.unsent call) := by
  rw [change, run_bind, run_pure, run_perform, h]
  rfl

/-- The client of a local server, without a session. -/
def onLocalhost : Client where
  base :=
    { scheme := "http".toList
      lead := .authority ⟨[], "localhost".toList, some 8080⟩
      path := [[]]
      query := none
      fragment := none }
  cookie := none

end Client
end WeblogDesk
