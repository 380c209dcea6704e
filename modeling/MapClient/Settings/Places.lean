import MapClient.Files.Path
import MapClient.Settings.Environment

/-!
# Where the files are

Settings and data have a place each below the home directory, or below
directories that variables name.
-/

set_option autoImplicit false

namespace MapClient.Settings

open MapClient.Files

def programName : String := "chunkform"

def home? (env : Environment) : Option Path :=
  match env.get? "HOME" with
  | none | some [] => none
  | some bytes => some ⟨bytes⟩

def base? (env : Environment) (name below : String) : Option Path :=
  match env.text? name with
  | some s => some (.ofText s)
  | none => (home? env).map (·.join (.ofText below))

def defaultFile? (env : Environment) : Option Path :=
  (base? env "XDG_CONFIG_HOME" ".config").map fun p =>
    (p.join (.ofText programName)).join (.ofText "config.toml")

def defaultLogDirectory? (env : Environment) : Option Path :=
  (base? env "XDG_DATA_HOME" ".local/share").map (·.join (.ofText programName))

end MapClient.Settings
