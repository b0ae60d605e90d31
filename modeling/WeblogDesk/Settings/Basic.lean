/-
  WeblogDesk.Settings.Basic

  The settings of the desk, from the variables of the process.
-/

import WeblogDesk.Client
import WeblogDesk.Labels
import WeblogDesk.Settings.EnvFile

namespace WeblogDesk

/-- The settings of the desk. -/
structure Settings where
  /-- The server, without slashes at the end. -/
  baseUrl : String
  /-- The weblog whose members are managed. -/
  weblog : Option String
  /-- Where to log in again. -/
  refreshUrl : String
  /-- The id of the login session. -/
  session : Option String
  /-- What the buttons of the confirmation say. -/
  labels : Labels
  /-- How much is written to the log. -/
  logLevel : String
  deriving DecidableEq, Repr

namespace Settings

/-- Below the server: where to log in again, unless it is set. -/
def refreshPath : String := "/tb-ui/app/login-redirect"

/-- The server, unless it is set. -/
def defaultBaseUrl : String := "http://localhost:8080"

/-- The text without slashes at its end. -/
def dropSlashes (s : String) : String :=
  String.ofList (s.toList.reverse.dropWhile (· == '/')).reverse

/-- A text that is not empty. -/
def nonEmpty? (s : String) : Option String :=
  if s.isEmpty then none else some s

/-- The settings that variables make. -/
def ofEnvironment (env : Environment) : Settings :=
  let baseUrl := dropSlashes ((env.find? "TB_BASE_URL").getD defaultBaseUrl)
  { baseUrl
    weblog := (env.find? "TB_WEBLOG_ID").bind nonEmpty?
    refreshUrl := (env.find? "TB_REFRESH_URL").getD (baseUrl ++ refreshPath)
    session := (env.find? "TB_SESSION_COOKIE").bind nonEmpty?
    labels := {
      confirm := (env.find? "TB_CONFIRM_LABEL").getD Labels.default.confirm
      cancel := (env.find? "TB_CANCEL_LABEL").getD Labels.default.cancel }
    logLevel := (env.find? "TB_LOG_LEVEL").getD "info" }

/-- The settings of a process, with an env file if there is one. -/
def load (env : Environment) (file : Option ByteArray) : Settings :=
  ofEnvironment (file.elim env (EnvFile.load env))

/-- The client that the settings make. -/
def client (idna : Url.Idna) (settings : Settings) : Except Failure Client :=
  Client.new idna settings.baseUrl settings.session

end Settings
end WeblogDesk
