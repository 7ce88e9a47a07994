import BuildRunner.Config.Toml
import BuildRunner.Host.Files
import BuildRunner.Text.Utf8

set_option autoImplicit false

/-! # Finding the settings

Settings are searched at some paths; the first one that exists counts, and its errors are final.
Where there is none the settings have their defaults. Unless a path is given, a file in the
current directory is looked for first and one in the user's directory for settings second.
-/

namespace BuildRunner

open Host (Files Place)

/-- Why settings cannot be loaded. -/
inductive ConfigError where
  /-- The file cannot be read. -/
  | unreadable (path reason : String)
  /-- The file does not hold settings. -/
  | malformed (path : String)
deriving Repr, DecidableEq

def ConfigError.message : ConfigError → String
  | .unreadable path reason => "Failed to read config file " ++ path ++ ": " ++ reason
  | .malformed path => "Failed to parse config file " ++ path ++ ": TOML parse error"

namespace Config

/-- The file that is looked for in the current directory. -/
def localFile : String := ".cargo-lens.toml"

/-- The file that is looked for in the user's directory for settings. -/
def userFile : String := "cargo-lens/config.toml"

/-- The paths at which settings are searched, where `user` is the user's directory for settings. -/
def pathsWith (user : Option String) : List String :=
  localFile :: user.toList.map fun dir => Path.join dir userFile

/-- The paths for a user whose directory is told by variables. -/
def searchPaths (env : Environment) : List String := pathsWith env.settingsDirectory?

def existsAt (fs : Files) (dir : Option Place) (path : String) : Bool :=
  (fs.find dir path).toOption.isSome

def found? (fs : Files) (dir : Option Place) (paths : List String) : Option String :=
  paths.find? (existsAt fs dir)

def ofFile (fs : Files) (dir : Option Place) (path : String) : Except ConfigError Config :=
  match fs.content dir path with
  | .error e => .error (.unreadable path e.message)
  | .ok bytes =>
    match Utf8.decodeStrict bytes with
    | .error _ => .error (.unreadable path "stream did not contain valid UTF-8")
    | .ok text =>
      match ofText? text with
      | none => .error (.malformed path)
      | some c => .ok c

/-- The settings at the first of some paths that exists. -/
def load (fs : Files) (dir : Option Place) (paths : List String) : Except ConfigError Config :=
  match found? fs dir paths with
  | none => .ok {}
  | some path => ofFile fs dir path

end Config
end BuildRunner
