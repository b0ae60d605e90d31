/-
  WeblogDesk.Proofs.Desk.Deletions

  When the desk deletes a planet.

  It takes three things: the planets can be read, one of them has the id, and the first
  line of the input says yes.  `SaysYes` is the last of them, said without cutting or
  trimming anything.  With all three the desk sends one deletion, and without them it
  only asks (`deletes_planet`).
-/

import Mathlib.Data.List.TakeWhile
import WeblogDesk.Proofs.Desk.Exit

namespace WeblogDesk

open Http Conversation

/-! ## Consent -/

namespace Text

/-- There are no blanks to trim where there are none at all. -/
theorem dropWhile_isBlank_of_forall {s : List Char} (h : ∀ c ∈ s, isBlank c = false) :
    s.dropWhile isBlank = s := by
  cases s with
  | nil => rfl
  | cons c s => exact List.dropWhile_cons_of_neg (by simp [h c List.mem_cons_self])

theorem trimEnd_append {text back : List Char} (htext : ∀ c ∈ text, isBlank c = false)
    (hback : ∀ c ∈ back, isBlank c = true) : trimEnd (text ++ back) = text := by
  rw [trimEnd, List.reverse_append,
    List.dropWhile_append_of_pos fun c hc => hback c (List.mem_reverse.1 hc),
    dropWhile_isBlank_of_forall fun c hc => htext c (List.mem_reverse.1 hc), List.reverse_reverse]

/-- Trimming leaves what stands between blanks, if there are no blanks in it. -/
theorem trim_around {front text back : List Char} (hfront : ∀ c ∈ front, isBlank c = true)
    (htext : ∀ c ∈ text, isBlank c = false) (hback : ∀ c ∈ back, isBlank c = true) :
    trim (front ++ text ++ back) = text := by
  rw [trim, trimStart, List.append_assoc, List.dropWhile_append_of_pos hfront]
  cases text with
  | nil =>
    -- nothing but blanks is taken away from the front already
    rw [List.nil_append, List.dropWhile_eq_nil_iff.2 hback]
    rfl
  | cons c text =>
    rw [List.cons_append, List.dropWhile_cons_of_neg (by simp [htext c List.mem_cons_self])]
    exact trimEnd_append htext hback

/-- What trimming takes away are blanks in front and behind. -/
theorem exists_eq_trim (s : List Char) :
    ∃ front back, s = front ++ trim s ++ back ∧ ∀ c ∈ front ++ back, isBlank c = true := by
  refine ⟨s.takeWhile isBlank, ((trimStart s).reverse.takeWhile isBlank).reverse, ?_, ?_⟩
  · have hend : trim s ++ ((trimStart s).reverse.takeWhile isBlank).reverse = trimStart s := by
      rw [trim, trimEnd, ← List.reverse_append, List.takeWhile_append_dropWhile,
        List.reverse_reverse]
    rw [List.append_assoc, hend, trimStart, List.takeWhile_append_dropWhile]
  · intro c hc
    rcases List.mem_append.1 hc with hc | hc
    · exact List.mem_takeWhile_imp hc
    · exact List.mem_takeWhile_imp (List.mem_reverse.1 hc)

end Text

namespace Desk

/-- Whether the first line of an input, up to a line feed or to the end, is the text of a yes with
    blanks around it. -/
def SaysYes (input : List UInt8) : Prop :=
  ∃ (line word : String) (front back : List Char) (rest : List UInt8),
    input = line.toUTF8.data.toList ++ rest ∧ 0x0A ∉ line.toUTF8.data.toList ∧
      (rest = [] ∨ rest.head? = some 0x0A) ∧ line.toList = front ++ word.toList ++ back ∧
      (∀ c ∈ front ++ back, Text.isBlank c = true) ∧ (word = "y" ∨ word = "Y" ∨ word = "yes")

/-- The first line of an input whose first line is known. -/
theorem firstLine_append {line rest : List UInt8} (hline : 0x0A ∉ line)
    (hrest : rest = [] ∨ rest.head? = some 0x0A) : firstLine (line ++ rest) = line := by
  have hbytes : ∀ b ∈ line, (b != 0x0A) = true := by
    intro b hb
    exact bne_iff_ne.2 fun heq => hline (heq ▸ hb)
  rw [firstLine, List.takeWhile_append_of_pos hbytes]
  rcases hrest with rfl | hhead
  · exact List.append_nil line
  · obtain ⟨more, rfl⟩ := List.head?_eq_some_iff.1 hhead
    rw [List.takeWhile_cons_of_neg (by decide), List.append_nil]

theorem exists_eq_firstLine (input : List UInt8) :
    ∃ rest, input = firstLine input ++ rest ∧ 0x0A ∉ firstLine input ∧
      (rest = [] ∨ rest.head? = some 0x0A) := by
  refine ⟨input.dropWhile (· != 0x0A), List.takeWhile_append_dropWhile.symm, fun hmem => ?_, ?_⟩
  · have hne := List.mem_takeWhile_imp hmem
    exact bne_iff_ne.1 hne rfl
  · cases hrest : input.dropWhile (· != 0x0A) with
    | nil => exact .inl rfl
    | cons b more =>
      have hstop := List.head?_dropWhile_not (· != (0x0A : UInt8)) input
      rw [hrest] at hstop
      exact .inr (congrArg some (by simpa using hstop))

/-- What is taken for consent is a yes. -/
theorem consents_iff {input : List UInt8} : consents input = true ↔ SaysYes input := by
  unfold consents
  constructor
  · intro h
    split at h
    · cases h
    · next line hline =>
      obtain ⟨rest, hinput, hfeed, hrest⟩ := exists_eq_firstLine input
      obtain ⟨front, back, htrim, hblank⟩ := Text.exists_eq_trim line.toList
      have hbytes : line.toUTF8.data.toList = firstLine input := by
        rw [← fromUTF8?_eq_some_iff.1 hline]
      refine ⟨line, String.ofList (Text.trim line.toList), front, back, rest, ?_, ?_, hrest, ?_,
        hblank, ?_⟩
      · rw [hbytes]
        exact hinput
      · rw [hbytes]
        exact hfeed
      · rw [String.toList_ofList]
        exact htrim
      · simpa [or_assoc] using h
  · rintro ⟨line, word, front, back, rest, rfl, hfeed, hrest, hline, hblank, hword⟩
    have hplain : ∀ c ∈ word.toList, Text.isBlank c = false := by
      rcases hword with rfl | rfl | rfl <;> simp [Text.isBlank]
    obtain ⟨hfront, hback⟩ := List.forall_mem_append.1 hblank
    have htext : String.fromUTF8? ⟨line.toUTF8.data.toList.toArray⟩ = some line :=
      fromUTF8?_toUTF8 line
    rw [firstLine_append hfeed hrest, htext]
    dsimp only
    rw [hline, Text.trim_around hfront hplain hback, String.ofList_toList]
    simpa [or_assoc] using hword

/-- A line that is not text says nothing. -/
example : ¬SaysYes [0x79, 0xFF, 0x0A] := by
  rw [← consents_iff]
  decide +kernel

end Desk

/-! ## What is deleted -/

namespace Client

/-- Whether all is there for a planet to be deleted: the planets can be read, one of them has the
    id, and the input says yes. -/
structure AgreesToDelete (server : Server) (past : List Exchange) (client : Client) (id : String)
    (input : List UInt8) (planets : List Planet) : Prop where
  network : client.base.isHttp = true
  listed : (client.ask server past .listPlanets).answer.Gives Planet.listOfJson planets
  found : ∃ planet ∈ planets, planet.id = id
  yes : Desk.SaysYes input

end Client

namespace Report

/-- The table of planets without those of an id; every other row is striped, from the first one. -/
def tableWithout (id : String) (planets : List Planet) : String :=
  let rows : List Row := (planets.filter (·.id != id)).mapIdx fun i planet =>
    ⟨planet.id, planet.title, planet.handle, i % 2 == 0⟩
  String.join (rows.map planetLine)

theorem planetTable_listedPage (settings : Settings) (client : Client) (id : String)
    (planets : List Planet) :
    planetTable (Command.listedPage settings client (planets.filter (·.id != id))) =
      tableWithout id planets := rfl

end Report

namespace Command

variable {server : Server} {past log : List Exchange} {settings : Settings} {client : Client}
  {input : List UInt8} {report : Report} {id : String}

/-- Planets are looked up by their id. -/
theorem exists_planet_iff {planets : List Planet} :
    (∃ planet ∈ planets, planet.id = id) ↔ ∃ planet, planets.find? (·.id == id) = some planet := by
  rw [← Option.isSome_iff_exists, List.find?_isSome]
  simp only [beq_iff_eq]

/-- Where the planets are read, one of them has the id and the input says yes, all is there. -/
theorem agreesToDelete_iff {planets : List Planet}
    (h : (run server past client.listPlanets).1 = .ok planets) :
    client.AgreesToDelete server past id input planets ↔
      (∃ planet, planets.find? (·.id == id) = some planet) ∧ Desk.consents input = true := by
  obtain ⟨hhttp, hgives⟩ := (Client.given_eq_some_iff server past client).1
    ((Client.run_listPlanets_eq_ok_iff server past client).1 h)
  rw [← exists_planet_iff, Desk.consents_iff]
  exact ⟨fun hagrees => ⟨hagrees.found, hagrees.yes⟩,
    fun hboth => ⟨hhttp, hgives, hboth.1, hboth.2⟩⟩

/-- The planets for which all is there are those that are read. -/
theorem eq_of_agreesToDelete {planets : List Planet}
    (h : client.AgreesToDelete server past id input planets) :
    (run server past client.listPlanets).1 = .ok planets :=
  (Client.run_listPlanets_eq_ok_iff server past client).2
    ((Client.given_eq_some_iff server past client).2 ⟨h.network, h.listed⟩)

/-- What is sent once all is there. -/
theorem exchanged_of_agreesToDelete {planets : List Planet}
    (h : client.AgreesToDelete server past id input planets) :
    let listing := client.ask server past .listPlanets
    (run server past client.listPlanets).2 = past ++ [listing] ∧
      exchanged server past client.listPlanets ++
          exchanged server (past ++ [listing]) (client.deletePlanet id) =
        [listing, client.ask server (past ++ [listing]) (.deletePlanet id)] := by
  intro listing
  have hlisted : exchanged server past client.listPlanets = [listing] := by
    rw [Client.exchanged_listPlanets, Client.exchanged_perform, if_pos h.network]
  rw [run_snd, hlisted, Client.exchanged_deletePlanet, Client.exchanged_perform, if_pos h.network]
  exact ⟨rfl, rfl⟩

/-- A command to delete a planet only asks, and prints nothing, or all is there for the deletion
    and it is sent. -/
theorem Does.of_deletePlanet
    (h : Does server past settings client input (.deletePlanet id) report log) :
    let listing := client.ask server past .listPlanets
    let deletion := client.ask server (past ++ [listing]) (.deletePlanet id)
    ((∀ planets, ¬client.AgreesToDelete server past id input planets) ∧
      log = exchanged server past client.listPlanets ∧ report.out = "") ∨
    ∃ planets, client.AgreesToDelete server past id input planets ∧ log = [listing, deletion] ∧
      report.out =
        if deletion.answer.isSuccess then Report.tableWithout id planets else "" := by
  intro listing deletion
  cases h with
  | notListed hc hread =>
    refine .inl ⟨fun planets hagrees => ?_, rfl, rfl⟩
    cases hread.symm.trans (eq_of_agreesToDelete hagrees)
  | noPlanet hread hid =>
    refine .inl ⟨fun planets hagrees => ?_, rfl, rfl⟩
    cases hread.symm.trans (eq_of_agreesToDelete hagrees)
    obtain ⟨planet, hplanet⟩ := ((agreesToDelete_iff hread).1 hagrees).1
    cases hid.symm.trans hplanet
  | declined hread hid hno =>
    refine .inl ⟨fun planets hagrees => ?_, rfl, rfl⟩
    cases hread.symm.trans (eq_of_agreesToDelete hagrees)
    cases hno.symm.trans ((agreesToDelete_iff hread).1 hagrees).2
  | deleted hread hid hyes hd =>
    have hagrees := (agreesToDelete_iff hread).2 ⟨⟨_, hid⟩, hyes⟩
    obtain ⟨hrecord, hlog⟩ := exchanged_of_agreesToDelete hagrees
    rw [hrecord] at hd ⊢
    refine .inr ⟨_, hagrees, hlog, ?_⟩
    rw [if_pos ((Client.run_deletePlanet_eq_ok_iff server _ client).1 hd).2]
    exact Report.planetTable_listedPage settings client id _
  | notDeleted hread hid hyes hd =>
    have hagrees := (agreesToDelete_iff hread).2 ⟨⟨_, hid⟩, hyes⟩
    obtain ⟨hrecord, hlog⟩ := exchanged_of_agreesToDelete hagrees
    rw [hrecord] at hd ⊢
    refine .inr ⟨_, hagrees, hlog, ?_⟩
    rw [if_neg fun hsuccess => ?_]
    · rfl
    · cases hd.symm.trans ((Client.run_deletePlanet_eq_ok_iff server _ client).2
        ⟨hagrees.network, hsuccess⟩)
  | noWeblog hc hw => cases hc
  | notRead hc hw hread => rcases hc with hc | hc <;> cases hc
  | noMember hc hw hloads hm => cases hc
  | edited hc hw hloads hm hpage hreading hends => cases hc
  | added hc hw hpage hends => cases hc

end Command

/-! ## Runs -/

namespace Desk

/-- Whether the settings make a client for which all is there to delete a planet. -/
def AgreesToDelete (server : Server) (past : List Exchange) (idna : Url.Idna)
    (settings : Settings) (id : String) (input : List UInt8) : Prop :=
  ∃ client planets, settings.client idna = .ok client ∧
    client.AgreesToDelete server past id input planets

/-- A run that is asked to delete a planet only asks, and prints nothing, or it sends the
    deletion. -/
theorem run_deletePlanet_cases (server : Server) (past : List Exchange) (idna : Url.Idna)
    (settings : Settings) (id : String) (input : List UInt8) :
    let report :=
      (Conversation.run server past (Desk.run idna settings ["delete-planet", id] input)).1
    let log := exchanged server past (Desk.run idna settings ["delete-planet", id] input)
    (¬AgreesToDelete server past idna settings id input ∧ (∀ e ∈ log, e.request.method = .get) ∧
      report.out = "") ∨
    ∃ client planets, settings.client idna = .ok client ∧
      client.AgreesToDelete server past id input planets ∧
      let listing := client.ask server past .listPlanets
      let deletion := client.ask server (past ++ [listing]) (.deletePlanet id)
      log = [listing, deletion] ∧
        report.out = if deletion.answer.isSuccess then Report.tableWithout id planets else "" := by
  intro report log
  rcases run_cases server past idna settings ["delete-planet", id] input with
    ⟨_, hfault, -⟩ | ⟨_, failure, -, hfailure, hlog, hreport⟩ |
      ⟨command, client, hparse, hclient, hdoes⟩
  · cases hfault
  · refine .inl ⟨?_, fun e he => ?_, congrArg Report.out hreport⟩
    · rintro ⟨client, planets, hclient, -⟩
      cases hfailure.symm.trans hclient
    · rw [show log = [] from hlog] at he
      cases he
  · cases hparse
    rcases hdoes.of_deletePlanet with ⟨hno, hlog, hout⟩ | ⟨planets, hagrees, hlog, hout⟩
    · refine .inl ⟨?_, fun e he => ?_, hout⟩
      · rintro ⟨other, planets, hother, hagrees⟩
        cases hclient.symm.trans hother
        exact hno planets hagrees
      · rw [show log = _ from hlog] at he
        exact Command.method_of_mem_listPlanets he
    · exact .inr ⟨client, planets, hclient, hagrees, hlog, hout⟩

/-- Three planets, two of which have the same id. -/
def twins : List Planet :=
  [⟨"a", "", "A", none, Dict.empty⟩, ⟨"b", "h", "B", none, Dict.empty⟩,
    ⟨"a", "", "C", none, Dict.empty⟩]

end Desk
end WeblogDesk
