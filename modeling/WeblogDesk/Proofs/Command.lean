/-
  WeblogDesk.Proofs.Command

  Which words are a command, and what is said of those that are not.

  A command has one list of words, `Command.words`, and is given by these with the role in any
  case of its ASCII letters (`IsGivenBy`).  All other words are refused, by one of two texts: if
  there is just no such role, the text names the word that stands in its place
  (`HasUnknownRole`).  `parse_accepts_spellings` says that reading follows these rules for every
  list of words.

  The case of letters is put by the two alphabets (`Text.letters`), apart from the function that
  reads roles.
-/

import Mathlib.Data.List.Forall2
import WeblogDesk.Command

namespace WeblogDesk

/-! ## The case of letters -/

namespace Text

/-- The letters of ASCII, each in lower and in upper case. -/
def letters : List (Char × Char) :=
  "abcdefghijklmnopqrstuvwxyz".toList.zip "ABCDEFGHIJKLMNOPQRSTUVWXYZ".toList

/-- The same character, or a letter of ASCII in lower and in upper case. -/
def IsSameLetter (a b : Char) : Prop :=
  a = b ∨ (a, b) ∈ letters ∨ (b, a) ∈ letters

/-- Texts that are the same but for the case of ASCII letters. -/
def IsSameWord (s t : String) : Prop :=
  List.Forall₂ IsSameLetter s.toList t.toList

/-- Upper case changes letters only. -/
theorem toUpper_cases (c : Char) : c.toUpper = c ∨ (c, c.toUpper) ∈ letters := by
  by_cases h : 'a'.val ≤ c.val ∧ c.val ≤ 'z'.val
  · -- the lower case letters of ASCII are the characters 97 to 122
    have hall : ∀ n < 123, 97 ≤ n → (Char.ofNat n, (Char.ofNat n).toUpper) ∈ letters := by decide
    have hc := hall c.toNat (Nat.lt_succ_of_le h.2) h.1
    rw [Char.ofNat_toNat] at hc
    exact .inr hc
  · exact .inl (dif_neg h)

theorem toUpper_of_mem_letters {a b : Char} (h : (a, b) ∈ letters) :
    a.toUpper = b ∧ b.toUpper = b := by
  have hall : ∀ p ∈ letters, p.1.toUpper = p.2 ∧ p.2.toUpper = p.2 := by decide
  exact hall (a, b) h

theorem eq_of_mem_letters {a b u : Char} (ha : (a, u) ∈ letters) (hb : (b, u) ∈ letters) :
    a = b := by
  have hall : ∀ p ∈ letters, ∀ q ∈ letters, p.2 = q.2 → p.1 = q.1 := by decide
  exact hall (a, u) ha (b, u) hb rfl

theorem toUpper_eq_toUpper_iff {a b : Char} : a.toUpper = b.toUpper ↔ IsSameLetter a b := by
  constructor
  · intro h
    rcases toUpper_cases a with ha | ha <;> rcases toUpper_cases b with hb | hb
    · exact .inl (ha.symm.trans (h.trans hb))
    · exact .inr (.inr (ha.symm.trans h ▸ hb))
    · exact .inr (.inl (h.trans hb ▸ ha))
    · exact .inl (eq_of_mem_letters ha (h ▸ hb))
  · rintro (rfl | h | h)
    · rfl
    · exact (toUpper_of_mem_letters h).1.trans (toUpper_of_mem_letters h).2.symm
    · exact (toUpper_of_mem_letters h).2.trans (toUpper_of_mem_letters h).1.symm

end Text

open Text (IsSameWord)

/-! ## Names of roles -/

namespace Role

theorem upper_eq_upper_iff {s t : String} : upper s = upper t ↔ IsSameWord s t := by
  rw [upper, upper, String.ofList_inj, ← List.forall₂_eq_eq_eq, List.forall₂_map_left_iff,
    List.forall₂_map_right_iff]
  simp only [Text.toUpper_eq_toUpper_iff]
  rfl

theorem upper_wireName (role : Role) : upper role.wireName = role.wireName := by
  cases role <;> decide

theorem upper_eq_wireName_iff {word : String} {role : Role} :
    upper word = role.wireName ↔ IsSameWord word role.wireName := by
  rw [← upper_eq_upper_iff, upper_wireName]

theorem parse?_eq_some_iff {word : String} {role : Role} :
    parse? word = some role ↔ upper word = role.wireName :=
  ofWireName?_eq_some_iff

theorem parse?_eq_none_iff {word : String} :
    parse? word = none ↔ ∀ role : Role, upper word ≠ role.wireName := by
  simp only [Option.eq_none_iff_forall_ne_some, ne_eq, parse?_eq_some_iff]

end Role

namespace Command

variable {words : List String} {command : Command} {word : String}

/-! ## What is said -/

theorem text_unknownRole (word : String) :
    (UsageFault.unknownRole word).text = "unknown role " ++ word ++ "\n\n" ++ usage := rfl

/-- How the command line is used is said behind an unknown role too, so the texts are not of one
    length. -/
theorem usage_ne_text (word : String) : usage ≠ (UsageFault.unknownRole word).text := by
  intro h
  have hlength := congrArg String.length h
  rw [text_unknownRole, String.length_append, String.length_append, String.length_append]
    at hlength
  have hbreak : "\n\n".length = 2 := rfl
  omega

/-- What is said tells the fault. -/
theorem UsageFault.text_injective : Function.Injective UsageFault.text := by
  intro a b h
  cases a with
  | unknownCommand =>
    cases b with
    | unknownCommand => rfl
    | unknownRole word => exact absurd h (usage_ne_text word)
  | unknownRole word =>
    cases b with
    | unknownCommand => exact absurd h.symm (usage_ne_text word)
    | unknownRole other =>
      rw [text_unknownRole, text_unknownRole, String.append_left_inj, String.append_left_inj,
        String.append_right_inj] at h
      rw [h]

/-! ## Commands that end in a role -/

/-- The verbs that a user and a role follow, each with its command. -/
def roleForms : List (String × (String → Role → Command)) :=
  [("set-role", setRole), ("add-member", addMember), ("invite", invite)]

/-- The role that the last word of a command names, if it names one. -/
def role? : Command → Option Role
  | setRole _ role | addMember _ role | invite _ role => some role
  | planets | deletePlanet _ | members | removeMember _ => none

variable {form : String × (String → Role → Command)}

theorem cases_of_mem_roleForms (h : form ∈ roleForms) :
    form = ("set-role", setRole) ∨ form = ("add-member", addMember) ∨
      form = ("invite", invite) := by
  simpa only [roleForms, List.mem_cons, List.not_mem_nil, or_false] using h

theorem role?_of_mem_roleForms (h : form ∈ roleForms) (user : String) (role : Role) :
    (form.2 user role).role? = some role := by
  rcases cases_of_mem_roleForms h with rfl | rfl | rfl <;> rfl

theorem words_of_mem_roleForms (h : form ∈ roleForms) (user : String) (role : Role) :
    (form.2 user role).words = [form.1, user, role.wireName] := by
  rcases cases_of_mem_roleForms h with rfl | rfl | rfl <;> rfl

theorem parse_of_mem_roleForms (h : form ∈ roleForms) (user word : String) :
    parse [form.1, user, word] = withRole (form.2 user) word := by
  rcases cases_of_mem_roleForms h with rfl | rfl | rfl <;> rfl

theorem exists_form_of_role? {role : Role} (h : command.role? = some role) :
    ∃ form ∈ roleForms, ∃ user, command = form.2 user role := by
  cases command <;> cases h <;> simp [roleForms]

theorem withRole_eq_ok_iff {make : Role → Command} :
    withRole make word = .ok command ↔
      ∃ role : Role, Role.upper word = role.wireName ∧ command = make role := by
  simp only [← Role.parse?_eq_some_iff]
  unfold withRole
  cases Role.parse? word <;> simp [eq_comm]

theorem withRole_eq_error_iff {make : Role → Command} {fault : UsageFault} :
    withRole make word = .error fault ↔
      (∀ role : Role, Role.upper word ≠ role.wireName) ∧ fault = .unknownRole word := by
  rw [← Role.parse?_eq_none_iff]
  unfold withRole
  cases Role.parse? word <;> simp [eq_comm]

/-- Words are those of a command without a role, or a verb with a user and a word for the role, or
    they give no command. -/
theorem parse_cases (words : List String) :
    (∃ command : Command, command.role? = none ∧ words = command.words ∧
        parse words = .ok command) ∨
      (∃ form ∈ roleForms, ∃ user word, words = [form.1, user, word] ∧
        parse words = withRole (form.2 user) word) ∨
      parse words = .error .unknownCommand := by
  unfold parse
  split
  case h_1 => exact .inl ⟨.planets, rfl, rfl, rfl⟩
  case h_2 id => exact .inl ⟨.deletePlanet id, rfl, rfl, rfl⟩
  case h_3 => exact .inl ⟨.members, rfl, rfl, rfl⟩
  case h_4 user word =>
    exact .inr (.inl ⟨("set-role", setRole), by simp [roleForms], user, word, rfl, rfl⟩)
  case h_5 user => exact .inl ⟨.removeMember user, rfl, rfl, rfl⟩
  case h_6 user word =>
    exact .inr (.inl ⟨("add-member", addMember), by simp [roleForms], user, word, rfl, rfl⟩)
  case h_7 user word =>
    exact .inr (.inl ⟨("invite", invite), by simp [roleForms], user, word, rfl, rfl⟩)
  case h_8 => exact .inr (.inr rfl)

/-! ## Words that give a command -/

/-- Words that give the command: its own, where the role may have another case of its letters. -/
def IsGivenBy (command : Command) (words : List String) : Prop :=
  match command.role? with
  | none => words = command.words
  | some role =>
    ∃ word, words = command.words.dropLast ++ [word] ∧ IsSameWord word role.wireName

/-- Words of a command that ends in a role, but with this word, which is the name of none. -/
def HasUnknownRole (words : List String) (word : String) : Prop :=
  (∃ form ∈ roleForms, ∃ user, words = [form.1, user, word]) ∧
    ∀ role : Role, ¬IsSameWord word role.wireName

theorem isGivenBy_of_mem_roleForms (h : form ∈ roleForms) {user : String} {role : Role} :
    (form.2 user role).IsGivenBy words ↔
      ∃ word, words = [form.1, user, word] ∧ Role.upper word = role.wireName := by
  simp only [IsGivenBy, role?_of_mem_roleForms h, words_of_mem_roleForms h,
    Role.upper_eq_wireName_iff]
  rfl

theorem parse_eq_ok_iff : parse words = .ok command ↔ command.IsGivenBy words := by
  constructor
  · intro h
    rcases parse_cases words with
      ⟨given, hrole, hwords, hparse⟩ | ⟨form, hform, user, word, hwords, hparse⟩ | hparse
    · cases hparse.symm.trans h
      rwa [IsGivenBy, hrole]
    · obtain ⟨role, hword, rfl⟩ := withRole_eq_ok_iff.1 (hparse.symm.trans h)
      exact (isGivenBy_of_mem_roleForms hform).2 ⟨word, hwords, hword⟩
    · cases hparse.symm.trans h
  · intro h
    cases hrole : command.role? with
    | none =>
      rw [IsGivenBy, hrole] at h
      exact h ▸ parse_words command
    | some role =>
      obtain ⟨form, hform, user, rfl⟩ := exists_form_of_role? hrole
      obtain ⟨word, rfl, hword⟩ := (isGivenBy_of_mem_roleForms hform).1 h
      rw [parse_of_mem_roleForms hform]
      exact withRole_eq_ok_iff.2 ⟨role, hword, rfl⟩

theorem parse_eq_unknownRole_iff :
    parse words = .error (.unknownRole word) ↔ HasUnknownRole words word := by
  simp only [HasUnknownRole, ← Role.upper_eq_wireName_iff]
  constructor
  · intro h
    rcases parse_cases words with
      ⟨_, -, -, hparse⟩ | ⟨form, hform, user, other, hwords, hparse⟩ | hparse
    · cases hparse.symm.trans h
    · obtain ⟨hnone, hfault⟩ := withRole_eq_error_iff.1 (hparse.symm.trans h)
      cases hfault
      exact ⟨⟨form, hform, user, hwords⟩, hnone⟩
    · cases hparse.symm.trans h
  · rintro ⟨⟨form, hform, user, rfl⟩, hnone⟩
    rw [parse_of_mem_roleForms hform]
    exact withRole_eq_error_iff.2 ⟨hnone, rfl⟩

theorem parse_eq_unknownCommand_iff :
    parse words = .error .unknownCommand ↔
      (∀ command : Command, ¬command.IsGivenBy words) ∧ ∀ word, ¬HasUnknownRole words word := by
  -- what is neither a command nor the other fault is this one
  simp only [← parse_eq_ok_iff, ← parse_eq_unknownRole_iff]
  rcases parse words with (_ | _) | _ <;> simp

/-- The words of every command give it.  Words give a command exactly if they are its own but for
    the case of ASCII letters in the role; what is said of all others names the word in the place
    of the role exactly if a command has this form but no role this name, and is else how the
    command line is used. -/
theorem parse_accepts_spellings :
    (∀ command : Command, parse command.words = .ok command) ∧
      ∀ words : List String,
        let outcome := (parse words).mapError UsageFault.text
        (∀ command, outcome = .ok command ↔ command.IsGivenBy words) ∧
        (∀ word, outcome = .error ("unknown role " ++ word ++ "\n\n" ++ usage) ↔
          HasUnknownRole words word) ∧
        (outcome = .error usage ↔
          (∀ command : Command, ¬command.IsGivenBy words) ∧
            ∀ word, ¬HasUnknownRole words word) := by
  refine ⟨parse_words, fun words => ?_⟩
  intro outcome
  have hok (command : Command) : outcome = .ok command ↔ parse words = .ok command := by
    simp only [outcome]
    cases parse words <;> simp [Except.mapError]
  -- each text is said for one fault only
  have herror (fault : UsageFault) :
      outcome = .error fault.text ↔ parse words = .error fault := by
    simp only [outcome]
    cases parse words <;> simp [Except.mapError, UsageFault.text_injective.eq_iff]
  refine ⟨fun command => ?_, fun word => ?_, ?_⟩
  · exact (hok command).trans parse_eq_ok_iff
  · exact (herror (.unknownRole word)).trans parse_eq_unknownRole_iff
  · exact (herror .unknownCommand).trans parse_eq_unknownCommand_iff

/-- Words about commands may be names of users, and a role keeps no blank and no letter from
    outside ASCII: the capital of the long s is an S. -/
example :
    parse ["invite", "planets", "eDiT_dRaFt"] = .ok (.invite "planets" .editDraft) ∧
      parse ["set-role", "", " POST"] = .error (.unknownRole " POST") ∧
      parse ["add-member", "bob", "POſT"] = .error (.unknownRole "POſT") := by
  decide

end Command
end WeblogDesk
