import RedirectLogin.Config
import RedirectLogin.Store.Files

/-!
# The configuration file

Reading and writing the configuration below the directory for configurations. A file that is not
there stands for the default configuration.
-/

set_option autoImplicit false

namespace RedirectLogin

/-- Why a configuration cannot be read or written. -/
inductive ConfigError where
  /-- There is no directory for configurations. -/
  | noDirectory
  | io (error : IoError)
  | content (problem : Json.Problem)
  deriving DecidableEq, Repr

def ConfigError.message : ConfigError → String
  | .noDirectory => "Could not find config directory"
  | .io error => error.message
  | .content problem => problem.message

namespace Config

def fileName : String := "config.json"

/-- Permission bits of a new configuration file. -/
def fileMode : Nat := 0o644

/-- Where the configuration is, below the directory for configurations. -/
def location (configDirectory : Path) : Path :=
  (configDirectory.child appName).child fileName

def load (configDirectory : Path) (files : Files) : Except ConfigError Config :=
  let path := location configDirectory
  if files.isPresent path then
    match files.readText path with
    | .error e => .error (.io e)
    | .ok text =>
      match ofText text with
      | .error problem => .error (.content problem)
      | .ok config => .ok config
  else .ok default

def save (c : Config) (configDirectory : Path) (files : Files) : Except ConfigError Unit × Files :=
  match files.write (location configDirectory) fileMode (Text.bytes c.fileText) with
  | (.ok (), files) => (.ok (), files)
  | (.error e, files) => (.error (.io e), files)

end Config

end RedirectLogin
