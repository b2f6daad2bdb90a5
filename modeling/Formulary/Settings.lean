import Formulary.Text.LetterCase

/-!
# Settings

What the surroundings of the program decide, and how far environment variables decide it: those
whose names start with `EQUATIONKIT_`, in upper or lower case. A settings file is not looked at.
-/

namespace Formulary

/-- What the surroundings decide. -/
structure Settings where
  logLevel : String := "INFO"
  appTitle : String := "EquationKit"
  appVersion : String := "0.1.0"
deriving DecidableEq, Inhabited

namespace Settings

/-- How the name of every variable starts, in lower case. -/
def variablePrefix : String := "equationkit_"

/-- The last value among the variables whose name is `variablePrefix` and the given name, letter
case aside. -/
def lookup? (env : List (String × String)) (name : String) : Option String :=
  (env.reverse.find? fun (key, _) => key.map Text.lowerAscii = variablePrefix ++ name).map (·.2)

/-- The settings that the given variables decide; an empty value counts like any other. -/
def ofEnvironment (env : List (String × String)) : Settings :=
  let defaults : Settings := {}
  { logLevel := (lookup? env "log_level").getD defaults.logLevel
    appTitle := (lookup? env "app_title").getD defaults.appTitle
    appVersion := (lookup? env "app_version").getD defaults.appVersion }

end Settings

end Formulary
