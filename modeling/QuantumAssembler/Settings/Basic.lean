/-!
Module: QuantumAssembler.Settings.Basic
Purpose: The settings of the simulator, their defaults, and the reasons for which a settings file
  cannot be used. The format of settings files is a parameter: a way to write settings as a text and
  one to read them. Settings are saved without a check; those that are loaded have a side.
Main exports: Settings, ReadFailure, SettingsFailure, SettingsFailure.message, Settings.Format,
  Settings.Format.ReadsBack, Settings.text, Settings.load
-/

namespace QuantumAssembler

/-- The settings of the simulator. -/
structure Settings where
  /-- The number of registers of a fresh computer. -/
  registers : Nat := 16
  /-- The number of rows, and of columns, of every register. -/
  side : Nat := 3
  /-- Whether every executed instruction is logged. -/
  trace : Bool := false
  /-- What is logged unless the command line says otherwise. -/
  logLevel : String := "warn"
  prompt : String := "qsim"
deriving DecidableEq, Repr

/-- Why a file cannot be read. -/
inductive ReadFailure where
  | missing
  | isDirectory
  /-- A part of the path in front of its last name is a file. -/
  | notADirectory
  /-- The path, or a name in it, is longer than a file system takes. -/
  | nameTooLong
  | notText
deriving DecidableEq, Repr

namespace ReadFailure

/-- The wording of the reason. -/
def text : ReadFailure → String
  | missing => "No such file or directory (os error 2)"
  | isDirectory => "Is a directory (os error 21)"
  | notADirectory => "Not a directory (os error 20)"
  | nameTooLong => "File name too long (os error 36)"
  | notText => "stream did not contain valid UTF-8"

end ReadFailure

/-- Why a settings file cannot be used. -/
inductive SettingsFailure where
  | unreadable (path : String) (why : ReadFailure)
  /-- The file is not in the format of settings files, or sets what there is not to set. -/
  | malformed (path : String)
  /-- The file asks for registers that have no rows. -/
  | noSide (path : String)
  /-- A number is too large to be written. -/
  | unwritable
deriving DecidableEq, Repr

namespace SettingsFailure

/-- The wording of a failure, without what caused it. -/
def message : SettingsFailure → String
  | unreadable path _ => "Read config " ++ path
  | malformed path => "Parse config " ++ path
  | noSide path => "config " ++ path ++ ": side must be at least 1"
  | unwritable => "Serialize config"

end SettingsFailure

namespace Settings

/-- A format of settings files. -/
class Format where
  /-- The settings that a text writes, if it is in the format and sets nothing else. -/
  read : String → Option Settings
  /-- The text of settings, unless the format cannot hold them. -/
  write : Settings → Option String

/-- What is written in the format is read as the same settings. -/
def Format.ReadsBack [Format] : Prop :=
  ∀ s content, Format.write s = some content → Format.read content = some s

/-- The text of the settings, as it is saved. -/
def text [Format] (s : Settings) : Except SettingsFailure String :=
  match Format.write s with
  | some content => .ok content
  | none => .error .unwritable

/-- The settings of the file at `path` with the given content. A file that is missing leaves the
    defaults. -/
def load [Format] (path : String) (content : Except ReadFailure String) :
    Except SettingsFailure Settings :=
  match content with
  | .error .missing => .ok {}
  | .error .notADirectory => .ok {}
  | .error .nameTooLong => .ok {}
  | .error why => .error (.unreadable path why)
  | .ok text =>
    match Format.read text with
    | none => .error (.malformed path)
    | some s => if s.side = 0 then .error (.noSide path) else .ok s

end Settings

end QuantumAssembler
