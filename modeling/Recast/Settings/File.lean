import Recast.Settings.Environment

/-!
# Settings/File — settings from a file, and a file from settings

A settings file is a document whose value is a mapping with up to two sections. Without a file the
settings are those of the environment alone. `Settings.render` writes the file of the initial
settings, which is meant to be edited by its user.
-/

namespace Recast.Settings

/-- The settings that the value of a document says, in an environment. -/
def ofValue (env : Environment) (value : Value) (tools : Tools := {}) :
    Except SettingsError Settings :=
  match value with
  | .null => .error .emptyFile
  | .mapping entries => build env entries tools
  | _ => .error .notMapping

/-- The settings that the content of a file says, in an environment. -/
def ofContent (env : Environment) (content : List UInt8) (tools : Tools := {}) :
    Except SettingsError Settings :=
  match tools.read content with
  | .ok value => ofValue env value tools
  | .error why => .error (.ofUnreadable why)

/-- The settings that the text of a file says, in an environment. -/
def ofText (env : Environment) (text : List Char) (tools : Tools := {}) :
    Except SettingsError Settings :=
  ofContent env (Text.encode text) tools

/-- **The settings in an environment,** from the file at the path if there is a path. -/
def load (env : Environment) (files : Files) (path? : Option Path) (tools : Tools := {}) :
    Except SettingsError Settings :=
  match path? with
  | none => build env [] tools
  | some path =>
    match files.place path with
    | .ok (.file content) => ofContent env content tools
    | .ok .directory => .error (.badFile (.isDirectory path.toText))
    | .ok .nothing | .error _ => .error (.noFile path.toText)

/-! ## The initial file -/

/-- What a file says that has not been edited. -/
def initial : Entries :=
  [ (.text "engine", .mapping
      [ (.text "block_matching", .text Matching.lookahead.name),
        (.text "prefer_templates", .bool true),
        (.text "max_source_lines", .null) ]),
    (.text "logging", .mapping [(.text "level", .text "INFO")]) ]

/-- **The text of the initial file.** -/
def render (tools : Tools) : String := tools.write initial

end Recast.Settings
