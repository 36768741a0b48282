/-! Where settings and logs are kept: below the base directories of the user. -/
namespace CacheWatch

def pathBelow (directory name : String) : String :=
  match directory.toList.getLast? with
  | none => name
  | some '/' => directory ++ name
  | some _ => directory ++ "/" ++ name

structure Directories where
  home : Option String
  configHome : Option String
  stateHome : Option String
  /-- The home directory on record for the account. -/
  accountHome : Option String
deriving DecidableEq, Repr

namespace Directories

def homeDirectory (d : Directories) : String := (d.home.orElse (fun _ => d.accountHome)).getD "."

def configDirectory (d : Directories) : String :=
  d.configHome.getD (pathBelow d.homeDirectory ".config")

def stateDirectory (d : Directories) : String :=
  d.stateHome.getD (pathBelow d.homeDirectory ".local/state")

def application : String := "stockpile-dash"

def configPath (d : Directories) : String :=
  pathBelow (pathBelow d.configDirectory application) "config.toml"

def statePath (d : Directories) : String := pathBelow d.stateDirectory application

def logPath (d : Directories) : String := pathBelow d.statePath "stockpile-dash.log"

end Directories

end CacheWatch
