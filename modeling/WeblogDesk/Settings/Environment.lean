/-
  WeblogDesk.Settings.Environment

  The variables of a process.

  A variable whose value is not text counts as unset and is not among them.  No value
  holds a NUL: a process cannot be given one, and `EnvFile.load` assumes it of files.
-/

import WeblogDesk.Dict

namespace WeblogDesk

/-- The variables of a process that are set to a text. -/
abbrev Environment := Dict String

namespace Environment

/-- The environment with a variable set, unless it is set already.  The value is assumed to
    hold no NUL; a process ends abruptly when a variable is set to one that does. -/
def setDefault (env : Environment) (name value : String) : Environment :=
  if env.contains name then env else env.insert name value

/-- Setting a default changes the one variable, and only if it is unset. -/
theorem find?_setDefault (env : Environment) (name value k : String) :
    (env.setDefault name value).find? k =
      if k = name then some ((env.find? name).getD value) else env.find? k := by
  unfold setDefault Dict.contains
  split
  · rename_i h
    split
    · subst k
      obtain ⟨v, hv⟩ := Option.isSome_iff_exists.1 h
      simp [hv]
    · rfl
  · rename_i h
    rw [Dict.find?_insert]
    have hnone : env.find? name = none := by simpa using h
    split <;> simp [hnone]

end Environment
end WeblogDesk
