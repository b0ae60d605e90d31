/-
  WeblogDesk.Proofs.Endpoint.Results

  What a call comes to, by the answer to its one request.

  Seven calls read their replies in three ways, and share the rest: `carryOut` is
  any of them, `Call.read` is how it reads the reply of a success and `Call.Says`
  what that reply has to be for it.  `Call.Ends` lists what an answer can mean to a
  call, and `ends_check` that it means one of these; that a result is `Settled`
  says the same from the side of the result, kind by kind.
-/

import WeblogDesk.Proofs.Endpoint.Requests

namespace WeblogDesk

open Http Conversation

namespace Http

/-- A text is the bytes that it is read from. -/
theorem fromUTF8?_eq_some_iff {bytes : ByteArray} {text : String} :
    String.fromUTF8? bytes = some text ↔ bytes = text.toUTF8 := by
  constructor
  · intro h
    unfold String.fromUTF8? at h
    split at h
    · cases h
      rfl
    · cases h
  · rintro rfl
    exact fromUTF8?_toUTF8 text

end Http

/-! ## What replies have to say -/

namespace Call

/-- What a call gives, if it gives what was asked for. -/
def Value : Call → Type
  | .listPlanets => List Planet
  | .deletePlanet _ => Unit
  | .members _ => RoleMap
  | .potentialMembers _ => PotentialMembers
  | .updateMembers _ _ => String
  | .attachUser _ _ _ => String
  | .inviteUser _ _ _ => String

/-- How a call reads the reply of a success. -/
def read : (call : Call) → Reply → Except Failure call.Value
  | .listPlanets => Client.readJson Planet.listOfJson
  | .deletePlanet _ => fun _ => .ok ()
  | .members _ => Client.readJson RoleMap.ofJson
  | .potentialMembers _ => Client.readJson PotentialMembers.ofJson
  | .updateMembers _ _ => Client.readMessage
  | .attachUser _ _ _ => Client.readMessage
  | .inviteUser _ _ _ => Client.readMessage

end Call

namespace Http

/-- Whether a reply has arrived in full and its body is a text that reads as the value. -/
def Reply.IsJson {α : Type} (r : Reply) (read : String → Except Json.Fault α) (a : α) : Prop :=
  r.complete = true ∧ ∃ text, r.body = text.toUTF8 ∧ read text = .ok a

/-- Whether an answer is a success whose body is a text that reads as the value. -/
def Answer.Gives {α : Type} (answer : Answer) (read : String → Except Json.Fault α) (a : α) :
    Prop :=
  ∃ r, answer = .reply r ∧ Http.isSuccess r.status = true ∧ r.IsJson read a

/-- What an answer gives that is read as JSON. -/
theorem Answer.json?_eq_some_iff {α : Type} {read : String → Except Json.Fault α}
    {answer : Answer} {a : α} : answer.json? read = some a ↔ answer.Gives read a := by
  cases answer with
  | dropped => simp [json?, Gives]
  | reply r =>
    have hread (text : String) : (read text).toOption = some a ↔ read text = .ok a := by
      cases read text <;> simp [Except.toOption]
    cases hstatus : Http.isSuccess r.status <;> cases hcomplete : r.complete <;>
      simp [json?, Gives, Reply.IsJson, hstatus, hcomplete, Option.bind_eq_some_iff,
        fromUTF8?_eq_some_iff, hread]

/-- An answer gives one value at most. -/
theorem Answer.Gives.unique {α : Type} {answer : Answer} {read : String → Except Json.Fault α}
    {a b : α} (ha : answer.Gives read a) (hb : answer.Gives read b) : a = b :=
  Option.some_inj.1 ((json?_eq_some_iff.2 ha).symm.trans (json?_eq_some_iff.2 hb))

/-- Whether a reply has arrived in full and its body is the message. -/
def Reply.IsMessage (r : Reply) (message : String) : Prop :=
  r.complete = true ∧ message = Text.readText r.body

end Http

/-- Whether the body of a reply gives a call the value: the reads ask for JSON, the changes for a
    body that is all there, and a deletion for nothing. -/
def Call.Says : (call : Call) → Reply → call.Value → Prop
  | .listPlanets, r, planets => r.IsJson Planet.listOfJson planets
  | .deletePlanet _, _, _ => True
  | .members _, r, roles => r.IsJson RoleMap.ofJson roles
  | .potentialMembers _, r, users => r.IsJson PotentialMembers.ofJson users
  | .updateMembers _ _, r, message => r.IsMessage message
  | .attachUser _ _ _, r, message => r.IsMessage message
  | .inviteUser _ _ _, r, message => r.IsMessage message

/-- Whether a way to read replies gives exactly the values that they say, and otherwise says that
    the body is at fault. -/
structure ReadsBody {α : Type} (read : Reply → Except Failure α) (Says : Reply → α → Prop) :
    Prop where
  ok_iff : ∀ r a, read r = .ok a ↔ Says r a
  error : ∀ r failure, read r = .error failure → failure = .decode .body

namespace Client

theorem readsBody_readJson {α : Type} (read : String → Except Json.Fault α) :
    ReadsBody (readJson read) (·.IsJson read) where
  ok_iff := by
    intro r a
    have hoption := toOption_readJson read r
    have hsome : readJson read r = .ok a ↔ (readJson read r).toOption = some a := by
      cases readJson read r <;> simp [Except.toOption]
    rw [hsome, hoption, Reply.IsJson]
    cases r.complete with
    | false => simp
    | true =>
      simp only [if_true, true_and, Option.bind_eq_some_iff, fromUTF8?_eq_some_iff]
      refine exists_congr fun text => and_congr_right fun _ => ?_
      cases read text <;> simp [Except.toOption]
  error := by
    intro r failure h
    unfold readJson at h
    dsimp only at h
    -- whatever is wrong with the text, it is told as a fault of the body
    generalize Option.map read _ = result at h
    split at h
    · cases h
    · cases h
      rfl

theorem readsBody_readMessage : ReadsBody readMessage Reply.IsMessage where
  ok_iff := by
    intro r message
    unfold readMessage Reply.IsMessage
    cases r.complete with
    | false => simp
    | true => simp [eq_comm]
  error := by
    intro r failure h
    unfold readMessage at h
    split at h
    · cases h
    · cases h
      rfl

end Client

/-- Every call reads what its reply has to say. -/
theorem Call.readsBody (call : Call) : ReadsBody call.read call.Says := by
  cases call with
  | deletePlanet id => exact ⟨fun _ _ => iff_of_true rfl trivial, fun _ _ h => nomatch h⟩
  | listPlanets => exact Client.readsBody_readJson _
  | members weblog => exact Client.readsBody_readJson _
  | potentialMembers weblog => exact Client.readsBody_readJson _
  | updateMembers weblog roles => exact Client.readsBody_readMessage
  | attachUser weblog user role => exact Client.readsBody_readMessage
  | inviteUser weblog user role => exact Client.readsBody_readMessage

/-! ## What answers mean -/

/-- What an answer to a request for the URL can mean to a call. -/
inductive Call.Ends (call : Call) (url : Url) : Answer → Except Failure call.Value → Prop
  | unanswered : Ends call url .dropped (.error (.transport (.noAnswer url)))
  | read {r value} (hsuccess : isSuccess r.status = true) (hbody : call.Says r value) :
      Ends call url (.reply r) (.ok value)
  | unreadable {r} (hsuccess : isSuccess r.status = true) (hbody : ∀ value, ¬call.Says r value) :
      Ends call url (.reply r) (.error (.decode .body))
  | expired {r} (hstatus : r.status = 408) : Ends call url (.reply r) (.error .sessionExpired)
  | rejected {r} (hstatus : r.status = 400) :
      Ends call url (.reply r) (.error (.rejected (Payload.ofBody (Client.refusalText r))))
  | refused {r} (hsuccess : isSuccess r.status = false) (hexpired : r.status ≠ 408)
      (hrejected : r.status ≠ 400) :
      Ends call url (.reply r) (.error (.status r.status (Client.refusalText r)))

/-- Every answer means one of these. -/
theorem Call.ends_check (call : Call) (request : Request) (answer : Answer) :
    call.Ends request.url answer ((Client.check request answer).bind call.read) := by
  cases answer with
  | dropped => exact .unanswered
  | reply r =>
    rw [Client.check]
    by_cases hsuccess : isSuccess r.status = true
    · rw [if_pos hsuccess]
      show call.Ends request.url (.reply r) (call.read r)
      cases hread : call.read r with
      | ok value => exact .read hsuccess ((call.readsBody.ok_iff r value).1 hread)
      | error failure =>
        rw [call.readsBody.error r failure hread]
        refine .unreadable hsuccess fun value hbody => ?_
        rw [(call.readsBody.ok_iff r value).2 hbody] at hread
        cases hread
    · rw [if_neg hsuccess]
      show call.Ends request.url (.reply r) (.error (Failure.ofStatus r.status _))
      unfold Failure.ofStatus
      by_cases hexpired : r.status = requestTimeout
      · rw [if_pos hexpired]
        exact .expired hexpired
      · rw [if_neg hexpired]
        by_cases hrejected : r.status = badRequest
        · rw [if_pos hrejected]
          exact .rejected hrejected
        · rw [if_neg hrejected]
          exact .refused (eq_false_of_ne_true hsuccess) hexpired hrejected

/-- Whether a result of a call is settled by the answer to a request for the URL: each kind of
    result comes of one kind of answers, and of all of them.  What breaks off in the body of a
    reply that is no success counts as empty. -/
structure Call.Settled (call : Call) (url : Url) (answer : Answer)
    (result : Except Failure call.Value) : Prop where
  ok : ∀ value, result = .ok value ↔
    ∃ r, answer = .reply r ∧ isSuccess r.status = true ∧ call.Says r value
  transport : ∀ cause, result = .error (.transport cause) ↔
    answer = .dropped ∧ .noAnswer url = cause
  decode : ∀ cause, result = .error (.decode cause) ↔
    ∃ r, answer = .reply r ∧ isSuccess r.status = true ∧ (∀ value, ¬call.Says r value) ∧
      .body = cause
  expired : result = .error .sessionExpired ↔ ∃ r, answer = .reply r ∧ r.status = 408
  rejected : ∀ payload, result = .error (.rejected payload) ↔
    ∃ r, answer = .reply r ∧ r.status = 400 ∧
      Payload.ofBody (if r.complete then Text.readText r.body else "") = payload
  status : ∀ code body, result = .error (.status code body) ↔
    ∃ r, answer = .reply r ∧ isSuccess r.status = false ∧ r.status ≠ 408 ∧ r.status ≠ 400 ∧
      r.status = code ∧ (if r.complete then Text.readText r.body else "") = body
  config : ∀ cause, result ≠ .error (.config cause)
  /-- The status behind a failure is the one that was answered, if that is no success. -/
  answered : ∀ failure, result = .error failure → ∀ code, failure.status? = some code ↔
    ∃ r, answer = .reply r ∧ isSuccess r.status = false ∧ r.status = code
  /-- There is none if nothing was answered, or a success that could not be read. -/
  unanswered : ∀ failure, result = .error failure → (failure.status? = none ↔
    (∃ cause, failure = .transport cause) ∨ ∃ cause, failure = .decode cause)

/-- A reply says one thing at most. -/
theorem Call.says_unique {call : Call} {r : Reply} {a b : call.Value} (ha : call.Says r a)
    (hb : call.Says r b) : a = b := by
  have hread : call.read r = .ok a := (call.readsBody.ok_iff r a).2 ha
  rw [(call.readsBody.ok_iff r b).2 hb] at hread
  cases hread
  rfl

/-- The two statuses with a meaning of their own are no successes. -/
theorem ne_of_isSuccess {code : Nat} (h : isSuccess code = true) : code ≠ 408 ∧ code ≠ 400 := by
  constructor
  · rintro rfl
    cases h
  · rintro rfl
    cases h

/-- Each way to end is told from the others by its kind of result and its kind of answer. -/
theorem Call.Ends.settled {call : Call} {url : Url} {answer : Answer}
    {result : Except Failure call.Value} (h : call.Ends url answer result) :
    call.Settled url answer result := by
  cases h with
  | unanswered => constructor <;> simp [Failure.status?]
  | read hsuccess hbody =>
    obtain ⟨hexpired, hrejected⟩ := ne_of_isSuccess hsuccess
    have honly (value : call.Value) : call.Says _ value ↔ _ = value :=
      ⟨says_unique hbody, fun heq => heq ▸ hbody⟩
    constructor <;> simp [hsuccess, hexpired, hrejected, honly]
  | unreadable hsuccess hbody =>
    obtain ⟨hexpired, hrejected⟩ := ne_of_isSuccess hsuccess
    constructor <;> simp [hsuccess, hbody, hexpired, hrejected, Failure.status?]
  | expired hstatus =>
    have hsuccess : isSuccess 408 = false := rfl
    constructor <;> simp [hstatus, hsuccess, Failure.status?, requestTimeout]
  | rejected hstatus =>
    have hsuccess : isSuccess 400 = false := rfl
    constructor <;> simp [hstatus, hsuccess, Failure.status?, badRequest, Client.refusalText]
  | refused hsuccess hexpired hrejected =>
    constructor <;> simp [hsuccess, hexpired, hrejected, Failure.status?, Client.refusalText]

/-! ## Calls -/

namespace Client

/-- Carries out a call, and gives what it asks for. -/
def carryOut (client : Client) : (call : Call) → Conversation (Except Failure call.Value)
  | .listPlanets => client.listPlanets
  | .deletePlanet id => client.deletePlanet id
  | .members weblog => client.members weblog
  | .potentialMembers weblog => client.potentialMembers weblog
  | .updateMembers weblog roles => client.change (.updateMembers weblog roles)
  | .attachUser weblog user role => client.change (.attachUser weblog user role)
  | .inviteUser weblog user role => client.change (.inviteUser weblog user role)

/-- Every call is carried out up to its reply, which it then reads. -/
theorem carryOut_eq (client : Client) (call : Call) :
    client.carryOut call = do return (← client.perform call).bind call.read := by
  cases call with
  | deletePlanet id =>
    have hmap (reply : Except Failure Reply) :
        reply.map (fun _ => ()) = reply.bind fun _ => .ok () := by
      cases reply <;> rfl
    show client.deletePlanet id = _
    simp only [deletePlanet, hmap]
    rfl
  | _ => rfl

/-- What a call comes to by the answer to its request. -/
def resultOf (client : Client) (call : Call) (answer : Answer) : Except Failure call.Value :=
  (check (client.request call) answer).bind call.read

theorem settled_resultOf (client : Client) (call : Call) (answer : Answer) :
    call.Settled (client.request call).url answer (client.resultOf call answer) :=
  (call.ends_check (client.request call) answer).settled

section Runs

variable (server : Server) (past : List Exchange) {client : Client}

theorem run_carryOut (h : client.base.isHttp = true) (call : Call) :
    (run server past (client.carryOut call)).1 =
      client.resultOf call (client.ask server past call).answer := by
  rw [carryOut_eq, run_bind, run_pure, run_perform, if_pos h]
  rfl

theorem run_carryOut_of_not_isHttp (h : client.base.isHttp = false) (call : Call) :
    (run server past (client.carryOut call)).1 = .error (client.unsent call) := by
  rw [carryOut_eq, run_bind, run_pure, run_perform, h]
  rfl

end Runs

/-- Whichever call is carried out on a server of the network, exactly one request is sent, and the
    answer to it settles what comes of the call. -/
theorem carryOut_settled (server : Server) (past : List Exchange) (client : Client)
    (h : client.base.isHttp = true) (call : Call) :
    let request := client.request call
    let answer := server past request
    exchanged server past (client.carryOut call) = [⟨request, answer⟩] ∧
      call.Settled request.url answer (run server past (client.carryOut call)).1 := by
  intro request answer
  rw [carryOut_eq, exchanged_bind_pure, exchanged_perform, if_pos h, run_bind, run_pure,
    run_perform, if_pos h]
  exact ⟨rfl, (call.ends_check request answer).settled⟩

/-- A success whose body breaks off is enough for a deletion, and not for a list or a change. -/
theorem carryOut_settled_of_broken_body :
    let client := onLocalhost
    let server : Server := fun _ _ => .reply ⟨200, ByteArray.empty, false⟩
    client.base.isHttp = true ∧
      (run server [] (client.deletePlanet "p")).1 = .ok () ∧
      (run server [] client.listPlanets).1 = .error (.decode .body) ∧
      (run server [] (client.change (.inviteUser "w" "u" .post))).1 = .error (.decode .body) := by
  intro client server
  have hhttp : client.base.isHttp = true := by rfl
  have hsettled := carryOut_settled server [] client hhttp
  refine ⟨hhttp, ?_, ?_, ?_⟩
  · exact ((hsettled (.deletePlanet "p")).2.ok ()).2 ⟨_, rfl, rfl, trivial⟩
  · exact ((hsettled .listPlanets).2.decode .body).2 ⟨_, rfl, rfl, (fun _ h => nomatch h.1), rfl⟩
  · exact ((hsettled (.inviteUser "w" "u" .post)).2.decode .body).2
      ⟨_, rfl, rfl, (fun _ h => nomatch h.1), rfl⟩

end Client
end WeblogDesk
