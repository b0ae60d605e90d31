/-
  WeblogDesk.Proofs.Page.Invitations

  Inviting a user, next to adding one.

  The two changes are asked for alike, but for the last segment of the path.
  `asInvite` puts the one segment in place of the other, and `AnswersInvites` relates two
  servers that answer alike, where one is asked for additions and the other for invitations.
  With two such servers, adding and inviting go the same way and leave the same page
  (`invites_as_it_adds`).
-/

import WeblogDesk.Proofs.Page.Changes

namespace WeblogDesk

open Http Conversation

/-! ## The last segment of a path -/

namespace Url

/-- The URL with another name for the last segment of its path. -/
def withLast (u : Url) (name : String) : Url :=
  { u with path := u.path.dropLast ++ [name.toList] }

theorem withoutUserinfo_withLast (u : Url) (name : String) :
    (u.withLast name).withoutUserinfo = u.withoutUserinfo.withLast name := by
  obtain ⟨scheme, lead, path, query, fragment⟩ := u
  cases lead with
  | authority a =>
    simp only [withoutUserinfo, withLast]
    split <;> rfl
  | _ => rfl

/-- What the text of a URL has around the last segment of its path does not depend on it. -/
theorem exists_render_concat (u : Url) (front : Url.Path) :
    ∃ before after, ∀ name : String,
      ({ u with path := front ++ [name.toList] } : Url).render = before ++ name ++ after := by
  refine ⟨String.ofList (u.scheme ++ ':' :: u.lead.text ++ front.text ++ ['/']),
    String.ofList (tailText u.query u.fragment), fun name => ?_⟩
  rw [render, ← String.toList_inj]
  simp [Path.text]

/-- A name without dots, drives or anything to encode is put behind any path. -/
theorem Path.push_word {name : List Char} (hplain : IsPlain name)
    (hencode : encode (segmentSet false) name = name) (hdrive : isDrive name = false)
    (file special : Bool) (path : Url.Path) :
    push file special path name = base path ++ [name] := by
  obtain ⟨⟨hdot, hdots⟩, hkept, hspecial⟩ := hplain
  have hwhole : encode (segmentSet special) name = name := by
    cases special
    · exact hencode
    · exact hspecial
  simp only [push, hkept, hdot, hdots, hwhole, hdrive, enter, Bool.and_false, Bool.or_self,
    if_false, decide_false, Bool.false_eq_true]

/-- What comes before such a name does not depend on it. -/
theorem exists_extend_concat (u : Url) (names : List String) :
    ∃ front : Url.Path,
      u.extend (names ++ ["attach"]) = { u with path := front ++ ["attach".toList] } ∧
      u.extend (names ++ ["invite"]) = { u with path := front ++ ["invite".toList] } := by
  have hconcat (name : String) (file special : Bool) :
      u.path.extend file special ((names ++ [name]).map (·.toList)) =
        (u.path.extend file special (names.map (·.toList))).push file special name.toList := by
    rw [Path.extend, List.map_append, List.foldl_append]
    rfl
  refine ⟨Path.base (u.path.extend (u.scheme = fileScheme) (isSpecialScheme u.scheme)
    (names.map (·.toList))), ?_, ?_⟩
  · rw [extend, hconcat, Path.push_word (by decide) (by decide) (by decide)]
  · rw [extend, hconcat, Path.push_word (by decide) (by decide) (by decide)]

end Url

/-! ## Additions and invitations -/

namespace Http

/-- The request for an invitation that a request for an addition turns into; any other request stays
    as it is. -/
def Request.asInvite (r : Request) : Request :=
  if r.Asks .post "attach" then { r with url := r.url.withLast "invite" } else r

/-- The exchange with the request that its request turns into. -/
def Exchange.asInvite (e : Exchange) : Exchange :=
  { e with request := e.request.asInvite }

/-- A request that turns into another one keeps all but the last segment of its path. -/
theorem Request.asInvite_of_asks {r : Request} (h : r.Asks .post "attach") :
    ∃ front before after, r.url.path = front ++ ["attach".toList] ∧
      r.asInvite = { r with url := { r.url with path := front ++ ["invite".toList] } } ∧
      r.target = before ++ "attach" ++ after ∧ r.asInvite.target = before ++ "invite" ++ after := by
  obtain ⟨front, hpath⟩ := List.getLast?_eq_some_iff.1 h.2
  have hinvite :
      r.asInvite = { r with url := { r.url with path := front ++ ["invite".toList] } } := by
    rw [asInvite, if_pos h, Url.withLast, hpath, List.dropLast_concat]
  obtain ⟨before, after, hrender⟩ := Url.exists_render_concat r.url.withoutFragment front
  refine ⟨front, before, after, hpath, hinvite, ?_, ?_⟩
  · rw [target, ← hrender, ← hpath]
    rfl
  · rw [hinvite, target, ← hrender]
    rfl

/-- What reads does not invite. -/
theorem Request.not_asks_of_get {r : Request} (h : r.method = .get) (last : String) :
    ¬r.Asks .post last := by
  rintro ⟨hpost, -⟩
  cases h.symm.trans hpost

theorem Request.asInvite_of_get {r : Request} (h : r.method = .get) : r.asInvite = r :=
  if_neg (not_asks_of_get h "attach")

theorem Exchange.asInvite_of_get {e : Exchange} (h : e.request.method = .get) : e.asInvite = e := by
  rw [asInvite, Request.asInvite_of_get h]

/-- What adds does not invite. -/
theorem Request.not_asks_invite {r : Request} (h : r.Asks .post "attach") :
    ¬r.Asks .post "invite" := by
  rintro ⟨-, hlast⟩
  have hsame := String.toList_inj.1 (Option.some.inj (h.2.symm.trans hlast))
  exact absurd hsame (by decide)

/-- What turns into an invitation is an addition. -/
theorem Request.asks_asInvite_iff {r : Request} (h : ¬r.Asks .post "invite") :
    r.asInvite.Asks .post "invite" ↔ r.Asks .post "attach" := by
  unfold asInvite
  split
  · next hasks => exact iff_of_true ⟨hasks.1, List.getLast?_concat⟩ hasks
  · next hasks => exact iff_of_false h hasks

end Http

namespace Client

/-- The request for an invitation is the one that the request for an addition turns into, wherever
    the server is. -/
theorem request_inviteUser (client : Client) (weblog user : String) (role : Role) :
    (client.request (.attachUser weblog user role)).Asks .post "attach" ∧
      client.request (.inviteUser weblog user role) =
        (client.request (.attachUser weblog user role)).asInvite := by
  obtain ⟨front, hattaching, hinviting⟩ := client.base.exists_extend_concat
    (Call.authoringTree ++ ["weblog", weblog, "user", user, "role", role.wireName])
  have hattach : client.place (.attachUser weblog user role) =
      { client.base with path := front ++ ["attach".toList] } :=
    (congrArg client.base.extend (by simp [Call.tree, Call.names])).trans
      hattaching
  have hinvite : client.place (.inviteUser weblog user role) =
      (client.place (.attachUser weblog user role)).withLast "invite" := by
    rw [hattach, Url.withLast, List.dropLast_concat]
    exact (congrArg client.base.extend (by simp [Call.tree, Call.names])).trans
      hinviting
  have hasks : (client.request (.attachUser weblog user role)).Asks .post "attach" := by
    refine ⟨rfl, ?_⟩
    rw [request, requestTo, Url.path_withoutUserinfo, hattach, List.getLast?_concat]
  refine ⟨hasks, ?_⟩
  rw [Request.asInvite, if_pos hasks, request, request, requestTo, hinvite,
    Url.withoutUserinfo_withLast]
  rfl

end Client

/-! ## Failures -/

/-- The failure with the URL that it tells replaced, if it is one of the connection. -/
def Failure.mapUrl (f : Url → Url) : Failure → Failure
  | .transport (.noAnswer url) => .transport (.noAnswer (f url))
  | .transport (.notHttp url) => .transport (.notHttp (f url))
  | failure => failure

/-- A call that cannot be sent for an invitation cannot for an addition, by the same reason. -/
theorem Client.unsent_asInvite {client : Client} {attach invite : Call}
    (hasks : (client.request attach).Asks .post "attach")
    (hinvite : client.request invite = (client.request attach).asInvite) :
    client.unsent invite = (client.unsent attach).mapUrl (·.withLast "invite") := by
  unfold unsent
  split
  · rw [hinvite, Request.asInvite, if_pos hasks]
    rfl
  · rfl

/-- The outcome with the URL that it tells replaced, if it is a failure of the connection. -/
def Outcome.mapUrl (f : Url → Url) : Outcome → Outcome
  | .failed failure => .failed (failure.mapUrl f)
  | outcome => outcome

theorem Failure.mapUrl_ofStatus (f : Url → Url) (code : Nat) (body : String) :
    (Failure.ofStatus code body).mapUrl f = .ofStatus code body := by
  unfold ofStatus
  split
  · rfl
  · split <;> rfl

/-- A page that tells of a failure tells of its URL in the outcome only. -/
theorem MembersPage.failed_mapUrl (page : MembersPage) (f : Url → Url) (failure : Failure) :
    page.failed (failure.mapUrl f) =
      ((page.failed failure).1, (page.failed failure).2.mapUrl f) := by
  cases failure with
  | transport cause => cases cause <;> rfl
  | _ => rfl

/-- One answer means the same for both requests. -/
theorem Client.result_asInvite {r : Request} (h : r.Asks .post "attach") (answer : Answer) :
    (check r.asInvite answer).bind readMessage =
      ((check r answer).bind readMessage).mapError (Failure.mapUrl (·.withLast "invite")) := by
  cases answer with
  | dropped =>
    rw [Request.asInvite, if_pos h]
    rfl
  | reply reply =>
    rw [check, check]
    cases isSuccess reply.status with
    | false =>
      show Except.error _ = Except.error _
      rw [Failure.mapUrl_ofStatus]
    | true =>
      show readMessage reply = (readMessage reply).mapError _
      unfold readMessage
      cases reply.complete <;> rfl

/-! ## Servers that answer alike -/

/-- Whether the second server, after its record, answers as the first one does after its past, where
    it is asked for invitations and the first one for additions.  Nothing is said of how the
    first one answers invitations, or the second one additions. -/
def AnswersInvites (server other : Server) (past record : List Exchange) : Prop :=
  ∀ (log : List Exchange) (r : Request), (∀ e ∈ log, ¬e.request.Asks .post "invite") →
    ¬r.Asks .post "invite" →
      other (record ++ log.map Exchange.asInvite) r.asInvite = server (past ++ log) r

namespace AnswersInvites

variable {server other : Server} {past record : List Exchange}
  (h : AnswersInvites server other past record)

include h

theorem answer {r : Request} (hr : ¬r.Asks .post "invite") :
    other record r.asInvite = server past r := by
  have hanswer := h [] r (List.forall_mem_nil _) hr
  rwa [List.map_nil, List.append_nil, List.append_nil] at hanswer

theorem append {log : List Exchange} (hlog : ∀ e ∈ log, ¬e.request.Asks .post "invite") :
    AnswersInvites server other (past ++ log) (record ++ log.map Exchange.asInvite) := by
  intro more r hmore hr
  rw [List.append_assoc, List.append_assoc, ← List.map_append]
  exact h (log ++ more) r (List.forall_mem_append.2 ⟨hlog, hmore⟩) hr

/-- What only reads goes the same way with both servers. -/
theorem run_of_get {α : Type} (c : Conversation α)
    (hget : ∀ e ∈ exchanged server past c, e.request.method = .get) :
    (run other record c).1 = (run server past c).1 ∧
      exchanged other record c = exchanged server past c := by
  induction c generalizing past record with
  | done a => exact ⟨rfl, rfl⟩
  | ask r next ih =>
    -- one request that both answer alike, and then the rest
    obtain ⟨hfirst, hrest⟩ := List.forall_mem_cons.1 hget
    have hnotInvite : ¬r.Asks .post "invite" := Request.not_asks_of_get hfirst "invite"
    have hsame : other record r = server past r := by
      have hanswer := h.answer hnotInvite
      rwa [Request.asInvite_of_get hfirst] at hanswer
    have hnext := h.append (List.forall_mem_singleton (a := ⟨r, server past r⟩).2 hnotInvite)
    rw [List.map_singleton, Exchange.asInvite_of_get hfirst] at hnext
    obtain ⟨hvalue, hlog⟩ := ih (server past r) hnext hrest
    constructor
    · show (run other (record ++ [⟨r, other record r⟩]) (next (other record r))).1 = _
      rw [hsame]
      exact hvalue
    · rw [exchanged, exchanged, hsame, hlog]

/-! ## Two runs -/

/-- A change that invites is made, or fails, as the one that adds. -/
theorem change_in_step {client : Client} {attach invite : Call}
    (hasks : (client.request attach).Asks .post "attach")
    (hinvite : client.request invite = (client.request attach).asInvite) :
    exchanged other record (client.change invite) =
        (exchanged server past (client.change attach)).map Exchange.asInvite ∧
      (run other record (client.change invite)).1 =
        (run server past (client.change attach)).1.mapError
          (Failure.mapUrl (·.withLast "invite")) := by
  by_cases hhttp : client.base.isHttp = true
  · have hanswer := h.answer (Request.not_asks_invite hasks)
    rw [← hinvite] at hanswer
    rw [Client.exchanged_change_of_isHttp other record hhttp,
      Client.exchanged_change_of_isHttp server past hhttp, Client.run_change other record hhttp,
      Client.run_change server past hhttp, ← Client.result_asInvite hasks, ← hinvite, Client.ask,
      Client.ask, hanswer, hinvite]
    exact ⟨rfl, rfl⟩
  · have hoff := eq_false_of_ne_true hhttp
    rw [Client.exchanged_change, Client.exchanged_change, Client.exchanged_perform,
      Client.exchanged_perform, if_neg hhttp, if_neg hhttp,
      Client.run_change_of_not_isHttp other record hoff,
      Client.run_change_of_not_isHttp server past hoff, Client.unsent_asInvite hasks hinvite]
    exact ⟨rfl, rfl⟩

/-- And so does what follows the change. -/
theorem submit_in_step {page : MembersPage} {attach invite : Call} (next : MembersPage)
    (hasks : (page.client.request attach).Asks .post "attach")
    (hinvite : page.client.request invite = (page.client.request attach).asInvite) :
    exchanged other record (page.submit invite next) =
        (exchanged server past (page.submit attach next)).map Exchange.asInvite ∧
      (run other record (page.submit invite next)).1 =
        ((run server past (page.submit attach next)).1.1,
          (run server past (page.submit attach next)).1.2.mapUrl (·.withLast "invite")) := by
  obtain ⟨hlog, hresult⟩ := h.change_in_step hasks hinvite
  cases hchange : (run server past (page.client.change attach)).1 with
  | error failure =>
    rw [hchange] at hresult
    rw [MembersPage.exchanged_submit_of_error server past page hchange,
      MembersPage.exchanged_submit_of_error other record page hresult,
      MembersPage.run_submit_of_error server past page hchange,
      MembersPage.run_submit_of_error other record page hresult]
    exact ⟨hlog, page.failed_mapUrl _ failure⟩
  | ok message =>
    rw [hchange] at hresult
    have hsent : ∀ e ∈ exchanged server past (page.client.change attach),
        ¬e.request.Asks .post "invite" := by
      intro e he
      rw [Client.exchanged_change] at he
      rw [Client.request_of_mem_perform server past page.client he]
      exact Request.not_asks_invite hasks
    -- the reload behind the change only reads
    have hget : ∀ e ∈ exchanged server (run server past (page.client.change attach)).2
        (next.saved message), e.request.method = .get := by
      intro e he
      rw [MembersPage.exchanged_saved] at he
      exact MembersPage.method_of_mem_load server _ _ he
    have hreload := h.append hsent
    rw [← hlog, ← run_snd, ← run_snd] at hreload
    obtain ⟨hvalue, hreads⟩ := hreload.run_of_get (next.saved message) hget
    rw [MembersPage.exchanged_submit_of_ok server past page hchange,
      MembersPage.exchanged_submit_of_ok other record page hresult,
      MembersPage.run_submit_of_ok server past page hchange,
      MembersPage.run_submit_of_ok other record page hresult, List.map_append, hlog, hreads, hvalue]
    constructor
    · rw [List.map_congr_left fun e he => Exchange.asInvite_of_get (hget e he), List.map_id']
    · rw [MembersPage.run_saved]
      rfl

end AnswersInvites

namespace MembersPage

/-- The two changes are skipped together, and otherwise are the two calls about one user and one
    role, with the same page behind them. -/
theorem adding_inviting_cases (page : MembersPage) :
    (page.addUser = pure (page, .skipped) ∧ page.inviteUser = pure (page, .skipped)) ∨
      ∃ user role,
        page.addUser = page.submit (.attachUser page.weblog user role) page.clearPending ∧
        page.inviteUser = page.submit (.inviteUser page.weblog user role) page.clearPending := by
  unfold addUser inviteUser
  cases page.pending with
  | none => exact .inl ⟨rfl, rfl⟩
  | some pick => exact .inr ⟨pick.1, pick.2, rfl, rfl⟩

/-- What is sent for an addition is the one request for it, and reads. -/
theorem asks_or_get_of_mem_addUser (server : Server) (past : List Exchange) (page : MembersPage)
    {e : Exchange} (he : e ∈ exchanged server past page.addUser) :
    e.request.Asks .post "attach" ∨ e.request.method = .get := by
  obtain ⟨hadd, -⟩ | ⟨user, role, hadd, -⟩ := adding_inviting_cases page
  · rw [hadd] at he
    cases he
  · rw [hadd] at he
    refine (mem_exchanged_submit server past he).imp_left fun hsent => ?_
    rw [Client.request_of_mem_perform server past page.client hsent]
    exact (page.client.request_inviteUser page.weblog user role).1

/-- With a server that answers invitations as another one answers additions, a page that invites its
    pick goes the way of one that adds it: it sends the same requests, up to the last segment of the
    path where something is changed, is left with the same page and tells the same, up to the URL
    that could not be reached. -/
theorem invites_as_it_adds {server other : Server} {past record : List Exchange}
    (h : AnswersInvites server other past record) (page : MembersPage) :
    let adding := (run server past page.addUser).1
    let inviting := (run other record page.inviteUser).1
    let log := exchanged server past page.addUser
    exchanged other record page.inviteUser = log.map Exchange.asInvite ∧
      (∀ e ∈ log, e.request.method = .get ∧ e.asInvite = e ∨
        e.request.method = .post ∧ ∃ front before after,
          e.request.url.path = front ++ ["attach".toList] ∧
          e.asInvite.request =
            { e.request with url := { e.request.url with path := front ++ ["invite".toList] } } ∧
          e.request.target = before ++ "attach" ++ after ∧
          e.asInvite.request.target = before ++ "invite" ++ after) ∧
      inviting.1 = adding.1 ∧ inviting.2 = adding.2.mapUrl (·.withLast "invite") := by
  intro adding inviting log
  have hway : exchanged other record page.inviteUser = log.map Exchange.asInvite ∧
      inviting = (adding.1, adding.2.mapUrl (·.withLast "invite")) := by
    obtain ⟨hadd, hinvite⟩ | ⟨user, role, hadd, hinvite⟩ := adding_inviting_cases page
    · simp only [adding, inviting, log, hadd, hinvite]
      exact ⟨rfl, rfl⟩
    · obtain ⟨hasks, hrequest⟩ := page.client.request_inviteUser page.weblog user role
      simp only [adding, inviting, log, hadd, hinvite]
      exact h.submit_in_step page.clearPending hasks hrequest
  refine ⟨hway.1, fun e he => ?_, congrArg (·.1) hway.2, congrArg (·.2) hway.2⟩
  rcases asks_or_get_of_mem_addUser server past page he with hasks | hget
  · exact .inr ⟨hasks.1, Request.asInvite_of_asks hasks⟩
  · exact .inl ⟨hget, Exchange.asInvite_of_get hget⟩

/-- One server confirms additions, the other one invitations, and neither lets anything be read.
    The base URL has a query and a fragment, which stay where they are. -/
theorem invites_as_it_adds_with_query :
    let base := { Client.onLocalhost.base with
      query := some "v=1".toList, fragment := some "top".toList }
    let page := { new ⟨base, none⟩ "w" "/login" with
      userToAdd := some "u", roleToAdd := some .post }
    let confirms (action : String) : Server := fun _ request =>
      .reply ⟨if request.Asks .post action then 200 else 408, ByteArray.empty, true⟩
    let adding := (run (confirms "attach") [] page.addUser).1
    let inviting := (run (confirms "invite") [] page.inviteUser).1
    AnswersInvites (confirms "attach") (confirms "invite") [] [] ∧ inviting.1 = adding.1 ∧
      inviting.2 = adding.2.mapUrl (·.withLast "invite") ∧
      (exchanged (confirms "invite") [] page.inviteUser).map (·.request.target) =
        ["http://localhost:8080/tb-ui/authoring/rest/weblog/w/user/u/role/POST/invite?v=1",
          "http://localhost:8080/tb-ui/authoring/rest/weblog/w/members?v=1",
          "http://localhost:8080/tb-ui/authoring/rest/weblog/w/potentialmembers?v=1"] := by
  intro base page confirms adding inviting
  have halike : AnswersInvites (confirms "attach") (confirms "invite") [] [] := by
    intro log r hlog hr
    simp only [confirms, Request.asks_asInvite_iff hr]
  obtain ⟨hlog, -, hpage, houtcome⟩ := invites_as_it_adds halike page
  refine ⟨halike, hpage, houtcome, ?_⟩
  rw [hlog]
  decide +kernel

end MembersPage

end WeblogDesk
