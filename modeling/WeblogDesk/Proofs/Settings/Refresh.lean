/-
  WeblogDesk.Proofs.Settings.Refresh

  The place to log in, against the places that requests go to.

  Unless it is set, the place to log in is the text of the server with a path
  behind it, while requests go to the URL of the server with names behind its path.
  `refreshUrl_eq_endpoint_iff` says when both are the same URL.  They are not where
  the text of the server ends in blanks, which are no part of its URL, or in a slash
  that is kept, since only slashes at the very end are dropped and a backslash is
  none of them.
-/

import WeblogDesk.Proofs.Endpoint.Construction
import WeblogDesk.Proofs.Settings.Effective
import WeblogDesk.Proofs.Url.Appended
import WeblogDesk.Proofs.Url.Written

namespace WeblogDesk
namespace Settings

open Url Url.Path

/-- The names of the place to log in, below the server. -/
def refreshNames : List String := ["tb-ui", "app", "login-redirect"]

theorem endpoint_refreshNames {client : Client} (h : client.base.isHttp = true) :
    client.endpoint [] refreshNames =
      .ok { client.base with path := stem client.base.path ++ refreshNames.map (·.toList) } := by
  have hpath : ["tb-ui".toList, "app".toList, "login-redirect".toList].foldl (push false true)
      (dropSlash client.base.path) = stem client.base.path ++ refreshNames.map (·.toList) :=
    foldl_push_tree (by decide) (by decide) (by decide) (by decide) _
  rw [Client.endpoint, if_pos (isRooted_of_isHttp h), extend_of_isHttp h, List.nil_append,
    Url.Path.extend]
  exact congrArg (fun path => Except.ok { client.base with path := path }) hpath

/-- The text behind the first slash of the path to log in. -/
def refreshText : List Char := "tb-ui/app/login-redirect".toList

theorem toList_refreshPath : refreshPath.toList = '/' :: refreshText := by decide

theorem splitAtSeparator_refreshText :
    splitAtSeparator (isSlash true) refreshText = refreshNames.map (·.toList) := by decide

theorem ofText_refreshNames :
    ∀ raw ∈ refreshNames.map (·.toList), Step.ofText raw = .down raw := by decide

theorem mem_refreshPath {c : Char} (h : c ∈ '/' :: refreshText) :
    isOutside c = false ∧ c ≠ '?' ∧ c ≠ '#' := by
  have hall : ('/' :: refreshText).all (fun c => !isOutside c && c != '?' && c != '#') = true := by
    decide
  simpa [and_assoc] using List.all_eq_true.1 hall c h

/-- Behind the text of a server, the path to log in is read as part of a name that is refused,
    or as the path of the same server. -/
theorem parse_append_refreshPath {idna : Idna} {text : String} {u : Url}
    (h : parse idna text = .ok u)
    (hhttp : u.isHttp = true) (hquery : u.query = none) (hfragment : u.fragment = none) :
    (∃ fault, parse idna (text ++ refreshPath) = .error fault) ∧ ¬EndsPlainly text.toList ∨
      ∃ path, parse idna (text ++ refreshPath) = .ok { u with path := path } ∧
        (path = stem u.path ++ refreshNames.map (·.toList) ↔
          EndsPlainly text.toList ∧ u.path ≠ [[], []]) := by
  obtain ⟨authority, path, hwrites⟩ := exists_writes h hhttp hquery hfragment
  have hne : clean text.toList ≠ [] := hwrites.ne_nil
  have hclean : clean (text ++ refreshPath).toList =
      clean text.toList ++ (trailing text.toList ++ '/' :: refreshText) := by
    rw [String.toList_append, toList_refreshPath, clean_append hne (List.cons_ne_nil _ _)
      fun c hc => (mem_refreshPath hc).1, List.append_assoc]
  have hblank : ∀ c ∈ trailing text.toList, isOutside c = true := fun c hc => (mem_trailing hc).1
  rw [endsPlainly_iff hne]
  generalize trailing text.toList = w at hclean hblank
  have hmore : ∀ c ∈ w ++ '/' :: refreshText, c ≠ '?' ∧ c ≠ '#' := by
    intro c hc
    rcases List.mem_append.1 hc with hc | hc
    · exact forall_isOutside (p := fun c => c ≠ '?' ∧ c ≠ '#') (by decide) (hblank c hc)
    · exact (mem_refreshPath hc).2
  have hslash : ∀ c ∈ w, isSlash true c = false := fun c hc =>
    forall_isOutside (p := (isSlash true · = false)) (by decide) (hblank c hc)
  cases path with
  | nil =>
    by_cases hw : w = []
    · -- the server has no path of its own: its root is where both begin
      subst hw
      have hgoes := hwrites.append hmore fun _ c hc => by cases hc; rfl
      rw [← hclean] at hgoes
      have hroot : u.path = [[]] := hwrites.path_eq
      refine .inr ⟨_, hgoes.parse_eq, iff_of_true ?_ ⟨⟨rfl, hwrites.exists_getLast?_of_nil⟩, ?_⟩⟩
      · rw [hroot]
        decide
      · rw [hroot]
        decide
    · -- the blanks are part of the host or of the port then
      exact .inl ⟨hwrites.parse_append_of_blanks hblank hw hclean, by simp [hw]⟩
  | cons sep body =>
    -- the blanks are part of the last segment of the path then
    have hgoes := hwrites.append hmore fun hnil => absurd hnil (List.cons_ne_nil sep body)
    rw [← hclean] at hgoes
    have hhead : (sep :: body).head? = some sep := rfl
    obtain ⟨init, last, hends, hread, happend⟩ := readPath_append hhead (hwrites.slash sep hhead)
    rw [← hwrites.getLast?_of_ne_nil (List.cons_ne_nil sep body)] at hends
    refine .inr ⟨_, hgoes.parse_eq, ?_⟩
    rw [← List.append_assoc, happend _ _ hslash, splitAtSeparator_refreshText, hwrites.path_eq,
      hread, resolve_eq_stem_iff ofText_refreshNames (by decide) hblank, hends, and_assoc]

/-- There is a place of the name of the login page on the server that requests go to, and if the
    place to log in is unset, it is that place if and only if the text of the server, tabs and line
    breaks aside, ends in no blank and in no slash of either kind, and the path of the server is
    not two slashes. -/
theorem refreshUrl_eq_endpoint_iff {idna : Idna} {env : Environment} {client : Client}
    (hunset : env.find? "TB_REFRESH_URL" = none)
    (hclient : (ofEnvironment env).client idna = .ok client) (hhttp : client.base.isHttp = true)
    (hquery : client.base.query = none) (hfragment : client.base.fragment = none) :
    let continues := EndsPlainly (ofEnvironment env).baseUrl.toList ∧ client.base.path ≠ [[], []]
    ∃ place, client.endpoint [] ["tb-ui", "app", "login-redirect"] = .ok place ∧
      (Url.parse idna (ofEnvironment env).refreshUrl = .ok place ↔ continues) ∧
      ((Url.parse idna (ofEnvironment env).refreshUrl).map Url.render = .ok place.render ↔
        continues) := by
  intro continues
  have hbase := Client.parse_of_new hclient
  have hurl : (ofEnvironment env).refreshUrl = (ofEnvironment env).baseUrl ++ refreshPath := by
    simp only [ofEnvironment, hunset, Option.getD_none]
  refine ⟨_, endpoint_refreshNames hhttp, ?_⟩
  rw [hurl]
  rcases parse_append_refreshPath hbase hhttp hquery hfragment with
    ⟨⟨fault, hfault⟩, hnot⟩ | ⟨path, hparse, hpath⟩
  · have hcontinues : ¬continues := fun h => hnot h.1
    rw [hfault]
    exact ⟨iff_of_false (by simp) hcontinues, iff_of_false (by simp [Except.map]) hcontinues⟩
  · -- texts of paths without slashes in their segments tell the paths
    have hfree : SlashFree path := slashFree_of_parse hparse
    have hfree' : SlashFree (stem client.base.path ++ refreshNames.map (·.toList)) := by
      intro segment hsegment
      rcases List.mem_append.1 hsegment with hsegment | hsegment
      · exact slashFree_of_parse hbase segment (mem_of_mem_stem hsegment)
      · exact (by decide : ∀ name ∈ refreshNames.map (·.toList), '/' ∉ name) segment hsegment
    rw [hparse]
    refine ⟨Iff.trans ?_ hpath, Iff.trans ?_ hpath⟩
    · simp only [Except.ok.injEq, Url.mk.injEq, true_and, and_true]
    · show Except.ok _ = Except.ok _ ↔ _
      rw [Except.ok.injEq]
      exact render_inj hfree hfree'

/-- A server whose text ends in a slash. -/
def slashEnvironment : Environment :=
  Dict.ofEntries [("TB_BASE_URL", "http://localhost:8080/tightblog/")]

/-- A server whose text ends in a blank. -/
def blankEnvironment : Environment :=
  Dict.ofEntries [("TB_BASE_URL", "http://localhost:8080/tightblog ")]

/-- The slash is dropped and all is well, but the blank is kept. -/
theorem refreshUrl_eq_endpoint_iff_of_blank :
    (∃ client place, (ofEnvironment slashEnvironment).client .asciiOnly = .ok client ∧
      client.endpoint [] ["tb-ui", "app", "login-redirect"] = .ok place ∧
      Url.parse .asciiOnly (ofEnvironment slashEnvironment).refreshUrl = .ok place) ∧
    ∃ client place, (ofEnvironment blankEnvironment).client .asciiOnly = .ok client ∧
      client.endpoint [] ["tb-ui", "app", "login-redirect"] = .ok place ∧
      Url.parse .asciiOnly (ofEnvironment blankEnvironment).refreshUrl ≠ .ok place := by
  let base : Url :=
    { scheme := "http".toList
      lead := .authority ⟨[], "localhost".toList, some 8080⟩
      path := ["tightblog".toList]
      query := none
      fragment := none }
  constructor
  · have hclient : (ofEnvironment slashEnvironment).client .asciiOnly = .ok ⟨base, none⟩ := by rfl
    obtain ⟨place, hplace, hsame, -⟩ :=
      refreshUrl_eq_endpoint_iff rfl hclient (by decide) rfl rfl
    refine ⟨⟨base, none⟩, place, hclient, hplace, hsame.2 ?_⟩
    exact ⟨⟨'g', by decide, by decide, by decide, by decide⟩, by decide⟩
  · have hclient : (ofEnvironment blankEnvironment).client .asciiOnly = .ok ⟨base, none⟩ := by rfl
    obtain ⟨place, hplace, hsame, -⟩ :=
      refreshUrl_eq_endpoint_iff rfl hclient (by decide) rfl rfl
    refine ⟨⟨base, none⟩, place, hclient, hplace, fun heq => ?_⟩
    obtain ⟨⟨c, hc, hbound, -⟩, -⟩ := hsame.1 heq
    have hlast : some ' ' = some c := hc
    rw [← Option.some.inj hlast] at hbound
    exact absurd hbound (by decide)

end Settings
end WeblogDesk
