/-
  WeblogDesk.Proofs.Json.Roles

  Maps of members that are written are read back.
-/

import WeblogDesk.Membership
import WeblogDesk.Proofs.Dict
import WeblogDesk.Proofs.Json.Objects

namespace WeblogDesk

open Json

/-- A map that is written entry by entry is read back, if each value is read back up to the
    comma or brace behind it. -/
theorem readDict_joinComma {α : Type} {read : Reader α} {write : α → List Char}
    (h : ∀ a c rest, c = ',' ∨ c = '\x7d' → read (write a ++ c :: rest) = .ok (a, c :: rest))
    (d : Dict α) :
    readDict read
        ('\x7b' :: (joinComma (d.entries.map fun e => writeEntry e.1 (write e.2)) ++ ['\x7d'])) =
      .ok (d, []) := by
  have hgathers : ∀ e ∈ d.entries, Gathers (readMember read)
      (fun e => e.1) (fun e => write e.2) (fun d e => d.insert e.1 e.2) e := by
    intro e _ d c rest hc
    have hcolon : readColon (':' :: (write e.2 ++ c :: rest)) = .ok (write e.2 ++ c :: rest) := rfl
    simp only [readMember, hcolon, h e.2 c rest hc, bind, Except.bind, pure, Except.pure]
  have hread := readEntries_joinComma hgathers Dict.empty []
  rw [← Dict.overlay, ← Dict.ofEntries_eq_overlay, Dict.ofEntries_entries] at hread
  exact hread

/-- A map that is written as a JSON object is read back, if its values are. -/
theorem readWhole_compact {α : Type} {read : Reader α} {toJson : α → Value}
    (h : ∀ a c rest, c = ',' ∨ c = '\x7d' →
      read ((toJson a).write ++ c :: rest) = .ok (a, c :: rest))
    (d : Dict α) :
    readWhole (readDict read) (Value.object (d.entries.map fun e => (e.1, toJson e.2))).compact =
      .ok d := by
  have hentries : Value.writeEntries (d.entries.map fun e => (e.1, toJson e.2)) =
      d.entries.map fun e => writeEntry e.1 (toJson e.2).write := by
    rw [writeEntries_eq_map, List.map_map]
    rfl
  rw [readWhole, Value.compact, String.toList_ofList, Value.write, hentries, List.cons_append,
    readDict_joinComma h d]
  rfl

/-- A role is read back from its name in quotes. -/
theorem Role.read_toJson (role : Role) (rest : List Char) :
    Role.read (role.toJson.write ++ rest) = .ok (role, rest) := by
  have hname : Role.ofJsonName role.wireName = .ok role := by
    rw [Role.ofJsonName, Role.ofWireName?_wireName]
  have hblanks (s : List Char) : skipBlanks ('"' :: s) = '"' :: s := rfl
  rw [toJson, Value.write, quote_append, Role.read, hblanks]
  simp only [readString_flatMap, hname, bind, Except.bind, pure, Except.pure]

/-- A role map that is written is read back. -/
theorem RoleMap.ofJson_compact (roles : RoleMap) : ofJson roles.toJson.compact = .ok roles :=
  readWhole_compact (fun role c rest _ => Role.read_toJson role (c :: rest)) roles

/-- A text is read back from what is written for it. -/
theorem Json.readText_write (text : String) (rest : List Char) :
    readText ((Value.string text).write ++ rest) = .ok (text, rest) := by
  have hblanks (s : List Char) : skipBlanks ('"' :: s) = '"' :: s := rfl
  rw [Value.write, quote_append, readText, hblanks]
  exact readString_flatMap text rest

/-- Potential members that are written are read back. -/
theorem PotentialMembers.ofJson_compact (users : PotentialMembers) :
    ofJson users.toJson.compact = .ok users :=
  readWhole_compact (fun label c rest _ => Json.readText_write label (c :: rest)) users

end WeblogDesk
