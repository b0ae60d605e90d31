/-
  WeblogDesk.Proofs.Settings.Effective

  Settings as a function of the values that their variables come to.

  A variable has the value of the process, if that is text, else the value of its
  first entry in the env file: this is `Settings.effective`.  Setting defaults one
  after the other comes to just that (`find?_setDefaults`), and `Settings.Follows`
  says what each setting is, by the effective values alone.  A line for a variable
  that is set already changes nothing, not even for the lines behind it
  (`setDefaults_entriesFrom_of_idle`), and neither do the lines behind one that is
  malformed; whether a line is malformed does not depend on the variables
  (`readLine_eq_malformed_iff`).
-/

import Mathlib.Data.List.DropRight
import WeblogDesk.Proofs.Dict
import WeblogDesk.Settings.Basic

namespace WeblogDesk

/-! ## Variables -/

namespace Environment

/-- The variables of a process whose values are text. -/
def ofProcess (process : Dict ByteArray) : Environment where
  entries := process.entries.filterMap fun e => (String.fromUTF8? e.2).map (e.1, ·)
  sorted := by
    refine List.Pairwise.filterMap _ ?_ process.sorted
    intro a b hlt c hc d hd
    obtain ⟨_, -, rfl⟩ := Option.map_eq_some_iff.1 hc
    obtain ⟨_, -, rfl⟩ := Option.map_eq_some_iff.1 hd
    exact hlt

theorem find?_ofProcess (process : Dict ByteArray) (name : String) :
    (ofProcess process).find? name = (process.find? name).bind String.fromUTF8? := by
  ext text
  rw [Dict.find?_eq_some_iff, ofProcess, List.mem_filterMap, Option.bind_eq_some_iff]
  simp only [Option.map_eq_some_iff, Prod.mk.injEq, Dict.find?_eq_some_iff]
  constructor
  · rintro ⟨⟨_, bytes⟩, hmem, text, htext, rfl, rfl⟩
    exact ⟨bytes, hmem, htext⟩
  · rintro ⟨bytes, hmem, htext⟩
    exact ⟨(name, bytes), hmem, text, htext, rfl, rfl⟩

theorem setDefault_of_contains {env : Environment} {name : String}
    (h : env.contains name = true) (value : String) : env.setDefault name value = env :=
  if_pos h

/-- The environment with the entries of a file set, where they are unset. -/
def setDefaults (env : Environment) (entries : List (String × String)) : Environment :=
  entries.foldl (fun env entry => env.setDefault entry.1 entry.2) env

/-- Of several entries for a variable the first one counts, and none if it is set. -/
theorem find?_setDefaults (env : Environment) (entries : List (String × String)) (name : String) :
    (env.setDefaults entries).find? name = (env.find? name).or (Dict.lookup name entries) := by
  induction entries generalizing env with
  | nil => simp [setDefaults, Dict.lookup]
  | cons entry rest ih =>
    obtain ⟨key, value⟩ := entry
    show ((env.setDefault key value).setDefaults rest).find? name = _
    rw [ih, find?_setDefault, Dict.lookup]
    split
    · -- the first entry for the name settles it
      next heq =>
      subst heq
      cases env.find? name <;> simp
    · rfl

/-- A variable is set at the end if it was set before, or by an entry. -/
theorem contains_setDefaults {env : Environment} {entries : List (String × String)}
    {name : String} :
    (env.setDefaults entries).contains name = true ↔
      env.contains name = true ∨ name ∈ entries.map (·.1) := by
  rw [Dict.contains, find?_setDefaults, Option.isSome_or, Bool.or_eq_true,
    Dict.isSome_lookup_iff, Dict.contains]

end Environment

/-! ## Lines -/

namespace EnvFile

variable (value value' : List Char → List Char)

/-- Where a value goes on does not depend on the variables. -/
theorem map_snd_stepValue (place : Place) (c : Char) :
    (stepValue value place c).map (·.2) = (stepValue value' place c).map (·.2) := by
  cases place with
  | name inQuotes soFar =>
    rw [stepValue, stepValue]
    by_cases hname : Text.isAlphanumeric c = true
    · rw [if_pos hname, if_pos hname]
    rw [if_neg hname, if_neg hname]
    by_cases hbrace : (c == '\x7b' && soFar.isEmpty) = true
    · rw [if_pos hbrace, if_pos hbrace]
    rw [if_neg hbrace, if_neg hbrace]
    split <;> rfl
  | braced inQuotes soFar =>
    rw [stepValue, stepValue]
    split <;> rfl
  | _ => rfl

theorem isSome_endValue (place : Place) :
    (endValue value place).isSome = (endValue value' place).isSome := by
  unfold endValue
  split <;> rfl

theorem isSome_readValueFrom_cons (place : Place) (c : Char) (rest : List Char) :
    (readValueFrom value place (c :: rest)).isSome =
      ((stepValue value place c).map (·.2)).any fun next =>
        (readValueFrom value next rest).isSome := by
  rw [readValueFrom]
  cases stepValue value place c with
  | none => rfl
  | some found => cases hrest : readValueFrom value found.2 rest <;> simp [hrest]

theorem isSome_readValueFrom (place : Place) (s : List Char) :
    (readValueFrom value place s).isSome = (readValueFrom value' place s).isSome := by
  induction s generalizing place with
  | nil => exact isSome_endValue value value' place
  | cons c rest ih =>
    rw [isSome_readValueFrom_cons, isSome_readValueFrom_cons, map_snd_stepValue value value']
    simp only [ih]

/-- Whether a line is malformed does not depend on the variables. -/
theorem readLine_eq_malformed_iff (line : List Char) :
    readLine value line = .malformed ↔ readLine value' line = .malformed := by
  unfold readLine
  dsimp only
  split
  · rfl
  · split
    · rfl
    · next name rest _ =>
      split
      · rfl
      · have hread := isSome_readValueFrom value value' (.open false) (Text.trimStart rest)
        rw [readValue, readValue]
        cases hvalue : readValueFrom value (.open false) (Text.trimStart rest) <;>
          cases hvalue' : readValueFrom value' (.open false) (Text.trimStart rest) <;>
          simp_all

/-- Whether no entry can be made of a line, and none of those behind it. -/
def isMalformed : Option (List Char) → Bool
  | none => true
  | some line => readLine (fun _ => []) line == .malformed

/-- The lines up to the first one that is malformed. -/
def wellFormed (lines : List (Option (List Char))) : List (Option (List Char)) :=
  lines.takeWhile (!isMalformed ·)

/-- Entries are those of the lines up to the first one that is malformed. -/
theorem entriesFrom_wellFormed (env : Environment) (lines : List (Option (List Char))) :
    entriesFrom env (wellFormed lines) = entriesFrom env lines := by
  induction lines generalizing env with
  | nil => rfl
  | cons line rest ih =>
    cases line with
    | none => rfl
    | some line =>
      rw [wellFormed]
      by_cases hline : isMalformed (some line) = true
      · -- it is malformed with the variables as they are, too
        have hread : readLine (valueIn env) line = .malformed :=
          (readLine_eq_malformed_iff _ _ line).1 (beq_iff_eq.1 hline)
        rw [List.takeWhile_cons_of_neg (by simp [hline]), entriesFrom, hread]
        rfl
      · rw [List.takeWhile_cons_of_pos (by simpa using hline), entriesFrom, entriesFrom]
        cases readLine (valueIn env) line with
        | blank => exact ih env
        | entry name value => exact congrArg (_ :: ·) (ih (env.setDefault name value))
        | malformed => rfl

/-- A line for a variable that is set, by the process or by the lines before it, changes
    nothing. -/
theorem setDefaults_entriesFrom_of_idle {env : Environment}
    {before after : List (Option (List Char))} {line : List Char} {name text : String}
    (hline : readLine (valueIn (env.setDefaults (entriesFrom env before))) line =
      .entry name text)
    (hset : (env.setDefaults (entriesFrom env before)).contains name = true) :
    env.setDefaults (entriesFrom env (before ++ some line :: after)) =
      env.setDefaults (entriesFrom env (before ++ after)) := by
  -- each line before it sets one variable for those behind, so the environment varies
  induction before generalizing env with
  | nil =>
    have hkept : env.setDefault name text = env := Environment.setDefault_of_contains hset text
    have hread : readLine (valueIn env) line = .entry name text := hline
    rw [List.nil_append, List.nil_append, entriesFrom, hread]
    show (env.setDefault name text).setDefaults (entriesFrom (env.setDefault name text) after) = _
    rw [hkept]
  | cons first rest ih =>
    cases first with
    | none => rfl
    | some first =>
      rw [List.cons_append, List.cons_append, entriesFrom, entriesFrom]
      rw [entriesFrom] at hline hset
      cases hfirst : readLine (valueIn env) first with
      | blank =>
        rw [hfirst] at hline hset
        exact ih hline hset
      | entry name' text' =>
        rw [hfirst] at hline hset
        exact ih hline hset
      | malformed => rfl

end EnvFile

/-! ## Settings -/

namespace Settings

/-- The value that a variable comes to: that of the process, if it is text, else that of
    its first entry in the file. -/
def effective (process : Dict ByteArray) (file : Option ByteArray) (name : String) :
    Option String :=
  ((process.find? name).bind String.fromUTF8?).or
    (Dict.lookup name (file.elim [] (EnvFile.entries (Environment.ofProcess process))))

/-- The variables that settings come from. -/
def names : List String :=
  ["TB_BASE_URL", "TB_WEBLOG_ID", "TB_REFRESH_URL", "TB_SESSION_COOKIE", "TB_CONFIRM_LABEL",
    "TB_CANCEL_LABEL", "TB_LOG_LEVEL"]

/-- A setting that is the value of its variable, and absent if that is unset or empty. -/
structure IsNonEmpty (value setting : Option String) : Prop where
  eq_none_iff : setting = none ↔ value = none ∨ value = some ""
  ne_empty : setting ≠ some ""
  eq_value : ∀ text, setting = some text → value = some text

/-- What settings are, by the values of the variables. -/
structure Follows (value : String → Option String) (s : Settings) : Prop where
  /-- The server is what is set, or the default, with all slashes at the end removed. -/
  baseUrl : ∃ n, ((value "TB_BASE_URL").getD "http://localhost:8080").toList =
    s.baseUrl.toList ++ List.replicate n '/'
  noSlash : s.baseUrl.toList.getLast? ≠ some '/'
  weblog : IsNonEmpty (value "TB_WEBLOG_ID") s.weblog
  session : IsNonEmpty (value "TB_SESSION_COOKIE") s.session
  /-- An empty text is a place to log in like any other. -/
  refreshUrl : s.refreshUrl =
    (value "TB_REFRESH_URL").getD (s.baseUrl ++ "/tb-ui/app/login-redirect")
  confirm : s.labels.confirm = (value "TB_CONFIRM_LABEL").getD "Confirm"
  cancel : s.labels.cancel = (value "TB_CANCEL_LABEL").getD "Cancel"
  logLevel : s.logLevel = (value "TB_LOG_LEVEL").getD "info"

theorem toList_dropSlashes (s : String) :
    (dropSlashes s).toList = s.toList.rdropWhile (· == '/') :=
  String.toList_ofList

/-- Only slashes are dropped. -/
theorem exists_toList_eq_dropSlashes (s : String) :
    ∃ n, s.toList = (dropSlashes s).toList ++ List.replicate n '/' := by
  have hslashes : ∀ c ∈ s.toList.rtakeWhile (· == '/'), c = '/' :=
    fun c hc => beq_iff_eq.1 (List.mem_rtakeWhile_imp (p := (· == '/')) hc)
  refine ⟨(s.toList.rtakeWhile (· == '/')).length, ?_⟩
  rw [toList_dropSlashes, ← List.eq_replicate_of_mem hslashes, List.rdropWhile_append_rtakeWhile]

/-- All of them are dropped. -/
theorem getLast?_dropSlashes (s : String) : (dropSlashes s).toList.getLast? ≠ some '/' := by
  intro hlast
  rw [toList_dropSlashes] at hlast
  have hne : s.toList.rdropWhile (· == '/') ≠ [] :=
    List.ne_nil_of_mem (List.mem_of_getLast? hlast)
  rw [List.getLast?_eq_some_getLast hne, Option.some_inj] at hlast
  exact List.rdropWhile_last_not (· == '/') s.toList hne (beq_iff_eq.2 hlast)

theorem isNonEmpty_bind (value : Option String) : IsNonEmpty value (value.bind nonEmpty?) := by
  cases value with
  | none => exact ⟨by simp, by simp, by simp⟩
  | some text =>
    by_cases h : text = ""
    · subst h
      exact ⟨by simp [nonEmpty?], by simp [nonEmpty?], by simp [nonEmpty?]⟩
    · have hkept : nonEmpty? text = some text := if_neg (by simpa using h)
      rw [Option.bind_some, hkept]
      exact ⟨by simp [h], by simpa using h, fun _ => id⟩

/-- The settings follow the variables they are made of. -/
theorem ofEnvironment_follows (env : Environment) : (ofEnvironment env).Follows env.find? where
  baseUrl := exists_toList_eq_dropSlashes _
  noSlash := getLast?_dropSlashes _
  weblog := isNonEmpty_bind _
  session := isNonEmpty_bind _
  refreshUrl := rfl
  confirm := rfl
  cancel := rfl
  logLevel := rfl

/-- Settings look at nothing but their variables. -/
theorem ofEnvironment_congr {env env' : Environment}
    (h : ∀ name ∈ names, env.find? name = env'.find? name) :
    ofEnvironment env = ofEnvironment env' := by
  simp only [names, List.forall_mem_cons, List.not_mem_nil] at h
  obtain ⟨hbase, hweblog, hrefresh, hsession, hconfirm, hcancel, hlevel, -⟩ := h
  simp only [ofEnvironment, hbase, hweblog, hrefresh, hsession, hconfirm, hcancel, hlevel]

/-- An env file sets the entries it has. -/
theorem load_eq (env : Environment) (file : Option ByteArray) :
    load env file = ofEnvironment (env.setDefaults (file.elim [] (EnvFile.entries env))) := by
  cases file <;> rfl

theorem find?_setDefaults_ofProcess (process : Dict ByteArray) (file : Option ByteArray) :
    ((Environment.ofProcess process).setDefaults
      (file.elim [] (EnvFile.entries (Environment.ofProcess process)))).find? =
      effective process file := by
  funext name
  rw [Environment.find?_setDefaults, Environment.find?_ofProcess, effective]

theorem load_ofProcess_congr {process process' : Dict ByteArray} {file file' : Option ByteArray}
    (h : ∀ name ∈ names, effective process file name = effective process' file' name) :
    load (Environment.ofProcess process) file = load (Environment.ofProcess process') file' := by
  rw [load_eq, load_eq]
  refine ofEnvironment_congr fun name hmem => ?_
  rw [find?_setDefaults_ofProcess, find?_setDefaults_ofProcess]
  exact h name hmem

/-- Settings follow the effective values of their variables and depend on nothing else.
    Lines behind the first malformed one have no effect, and neither does a line for a
    variable that the process or a line before it sets. -/
theorem load_follows (process process' : Dict ByteArray) (file file' : Option ByteArray) :
    (load (Environment.ofProcess process) file).Follows (effective process file) ∧
    ((∀ name ∈ names, effective process file name = effective process' file' name) →
      load (Environment.ofProcess process) file =
        load (Environment.ofProcess process') file') ∧
    (∀ bytes bytes' : ByteArray,
      EnvFile.wellFormed (EnvFile.lines bytes) = EnvFile.wellFormed (EnvFile.lines bytes') →
      load (Environment.ofProcess process) (some bytes) =
        load (Environment.ofProcess process) (some bytes')) ∧
    (∀ (bytes bytes' : ByteArray) (before after : List (Option (List Char))) (line : List Char)
        (name text : String),
      EnvFile.lines bytes = before ++ some line :: after →
      EnvFile.lines bytes' = before ++ after →
      EnvFile.readLine
          (EnvFile.valueIn ((Environment.ofProcess process).setDefaults
            (EnvFile.entriesFrom (Environment.ofProcess process) before))) line =
        .entry name text →
      ((process.find? name).bind String.fromUTF8?).isSome = true ∨
        name ∈ (EnvFile.entriesFrom (Environment.ofProcess process) before).map (·.1) →
      load (Environment.ofProcess process) (some bytes) =
        load (Environment.ofProcess process) (some bytes')) := by
  refine ⟨?_, load_ofProcess_congr, ?_, ?_⟩
  · rw [load_eq, ← find?_setDefaults_ofProcess]
    exact ofEnvironment_follows _
  · intro bytes bytes' h
    rw [load_eq, load_eq, Option.elim_some, Option.elim_some, EnvFile.entries, EnvFile.entries,
      ← EnvFile.entriesFrom_wellFormed, h, EnvFile.entriesFrom_wellFormed]
  · intro bytes bytes' before after line name text hlines hlines' hline hset
    rw [← Environment.find?_ofProcess] at hset
    rw [load_eq, load_eq, Option.elim_some, Option.elim_some, EnvFile.entries, EnvFile.entries,
      hlines, hlines',
      EnvFile.setDefaults_entriesFrom_of_idle hline (Environment.contains_setDefaults.2 hset)]

/-- A process with an empty text and with bytes that are no text. -/
def mixedProcess : Dict ByteArray :=
  Dict.ofEntries [("TB_WEBLOG_ID", ByteArray.empty), ("TB_REFRESH_URL", ⟨#[0xFF]⟩)]

/-- The texts that `mixedProcess` and its file come to. -/
def mixedTexts : Dict ByteArray :=
  Dict.ofEntries [("TB_WEBLOG_ID", ByteArray.empty), ("TB_REFRESH_URL", "a".toUTF8),
    ("TB_BASE_URL", "http://h//".toUTF8)]

/-- A file with entries for variables that are set, and a malformed line before the last. -/
def mixedFile : ByteArray :=
  ("TB_WEBLOG_ID=w\nTB_REFRESH_URL=a\nTB_REFRESH_URL=b\nTB_BASE_URL=http://h//\n" ++
    "=\nTB_LOG_LEVEL=x").toUTF8

theorem load_follows_mixed :
    (load (Environment.ofProcess mixedProcess) (some mixedFile)).Follows
      (effective mixedProcess (some mixedFile)) ∧
    load (Environment.ofProcess mixedProcess) (some mixedFile) =
      load (Environment.ofProcess mixedTexts) none ∧
    load (Environment.ofProcess mixedProcess) (some mixedFile) =
      load (Environment.ofProcess mixedProcess) (some
        "TB_WEBLOG_ID=w\nTB_REFRESH_URL=a\nTB_REFRESH_URL=b\nTB_BASE_URL=http://h//".toUTF8) ∧
    load (Environment.ofProcess mixedProcess) (some mixedFile) =
      load (Environment.ofProcess mixedProcess) (some
        "TB_WEBLOG_ID=w\nTB_REFRESH_URL=a\nTB_BASE_URL=http://h//\n=\nTB_LOG_LEVEL=x".toUTF8) := by
  obtain ⟨hfollows, hsame, hend, hidle⟩ :=
    load_follows mixedProcess mixedTexts (some mixedFile) none
  refine ⟨hfollows, hsame (by decide +kernel), hend _ _ (by decide +kernel), ?_⟩
  exact hidle _ _ ["TB_WEBLOG_ID=w".toList, "TB_REFRESH_URL=a".toList]
    ["TB_BASE_URL=http://h//".toList, "=".toList, "TB_LOG_LEVEL=x".toList]
    "TB_REFRESH_URL=b".toList "TB_REFRESH_URL" "b" (by decide +kernel) (by decide +kernel)
    (by decide +kernel) (by decide +kernel)

end Settings
end WeblogDesk
