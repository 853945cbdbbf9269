import RedirectLogin.Cli.Dotenv

/-!
# Directories of a user

Where a user's configuration and data are is up to the system, which asks the environment.
`Directories.xdg` is one such rule: a variable names the directory if it holds a path from the root,
and else the directory is below the user's home, which a variable may name too. Where neither says
anything, there is no such directory.
-/

set_option autoImplicit false

namespace RedirectLogin

/-- How the environment says where a user's directories are, if it does. -/
structure Directories where
  config : Environment → Option Path
  data : Environment → Option Path

namespace Directories

def homeVariable : String := "HOME"
def configVariable : String := "XDG_CONFIG_HOME"
def dataVariable : String := "XDG_DATA_HOME"

/-- The home directory: as the environment says, or else the one that the account has. -/
def home (account : Option Path) (env : Environment) : Option Path :=
  match (env.value? homeVariable).filter (fun v => !v.isEmpty) with
  | some v => some (.ofText v)
  | none => account

/-- The directory that a variable names, or one below the home directory. -/
def named (name below : String) (account : Option Path) (env : Environment) : Option Path :=
  match ((env.value? name).map Path.ofText).filter Path.isAbsolute with
  | some p => some p
  | none => (home account env).map (·.join (.ofText below))

/-- The directories of a user whose account has this home directory, if it has one. -/
def xdg (account : Option Path) : Directories where
  config := named configVariable ".config" account
  data := named dataVariable ".local/share" account

end Directories

end RedirectLogin
