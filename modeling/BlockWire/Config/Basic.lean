/- # Configurations

A configuration is a preset and a log level, the level as it was written. It can
only be made of a known preset and a known level, and the preset is looked at first.

A mapping gives either under its name in any case; the last entry for a name counts,
whatever stands for it is taken as text, and every other key is reported and
otherwise ignored. Keys and values that are taken as text may hold no number too
long to show.

Arguments are stricter: there are no others, and a value that is no text is no preset
and cannot be a level. -/
import BlockWire.Config.Setting
import BlockWire.Keyed
import BlockWire.Log
import BlockWire.Schema.Preset
import BlockWire.Text.Casing

namespace BlockWire

set_option autoImplicit false

/-! ## Log levels

A level is named in any case, and some levels have two names. Two more names are taken:
they stand for things that are no level. -/

inductive Level where
  | notset
  | debug
  | info
  | warning
  | error
  | critical
deriving DecidableEq

namespace Level

def name : Level → Text
  | .notset => "NOTSET"
  | .debug => "DEBUG"
  | .info => "INFO"
  | .warning => "WARNING"
  | .error => "ERROR"
  | .critical => "CRITICAL"

/-- Every name of a level, in upper case. -/
def names : List (Text × Level) :=
  [("NOTSET", .notset), ("DEBUG", .debug), ("INFO", .info), ("WARNING", .warning),
    ("WARN", .warning), ("ERROR", .error), ("CRITICAL", .critical), ("FATAL", .critical)]

def ofUpper? (name : Text) : Option Level := names.lookup name

def ofName? (name : Text) : Option Level := ofUpper? (Text.toUpper name)

/-- What a name stands for that is taken but names no level. -/
inductive Taken where
  | text (content : Text)
  | table (shown : Text)
deriving DecidableEq

/-- The layouts of a line, by the mark of their placeholders. -/
def layouts : Text :=
  "\x7b'%': (<class 'logging.PercentStyle'>, '%(levelname)s:%(name)s:%(message)s'), " ++
    "'\x7b': (<class 'logging.StrFormatStyle'>, " ++
    "'\x7blevelname\x7d:\x7bname\x7d:\x7bmessage\x7d'), " ++
    "'$': (<class 'logging.StringTemplateStyle'>, " ++
    "'$\x7blevelname\x7d:$\x7bname\x7d:$\x7bmessage\x7d')\x7d"

def taken : List (Text × Taken) :=
  [("BASIC_FORMAT", .text "%(levelname)s:%(name)s:%(message)s"), ("_STYLES", .table layouts)]

end Level

/-! ## Configurations -/

structure Config where
  preset : Preset
  logLevel : Text
  known : (Level.ofName? logLevel).isSome

namespace Config

inductive Fault where
  | unknownPreset (name : Text)
  | unknownLevel (name : Text)
  | notMapping (type : Text)
  | numberTooLong
  | unknownArgument (name : Text)
  | levelNotText (type : Text)
deriving DecidableEq

def Fault.message : Fault → Text
  | .unknownPreset name => "Unknown preset: " ++ name
  | .unknownLevel name => "Unknown log level: " ++ name
  | .notMapping type => "Expected a mapping, got " ++ type
  | .numberTooLong => Text.overLimit none
  | .unknownArgument name =>
      "Config.__init__() got an unexpected keyword argument '" ++ name ++ "'"
  | .levelNotText type => "'" ++ type ++ "' object has no attribute 'upper'"

def make (preset logLevel : Text) : Except Fault Config :=
  match Preset.ofName? preset with
  | none => .error (.unknownPreset preset)
  | some p =>
      if known : (Level.ofName? logLevel).isSome then .ok ⟨p, logLevel, known⟩
      else .error (.unknownLevel logLevel)

def defaultPreset : Text := "mainnet"

def defaultLevel : Text := "INFO"

/-- What has been given so far. -/
structure Draft where
  preset : Option Text
  logLevel : Option Text

namespace Draft

def empty : Draft := ⟨none, none⟩

def make (d : Draft) : Except Fault Config :=
  Config.make (d.preset.getD defaultPreset) (d.logLevel.getD defaultLevel)

end Draft

/-! ## From arguments -/

def presetWord : Setting → Except Fault Text
  | .text t => .ok t
  | value => .error (.unknownPreset value.toText)

def levelWord : Setting → Except Fault Text
  | .text t => .ok t
  | value => .error (.levelNotText value.typeName)

def argumentNames : List Text := ["preset", "log_level"]

/-- The configuration of these arguments. The preset is looked at before the level. -/
def ofArguments (arguments : Keyed Setting) : Except Fault Config :=
  match Keyed.firstUnknown? argumentNames arguments with
  | some name => .error (.unknownArgument name)
  | none =>
      let preset := presetWord ((arguments.get? "preset").getD (.text defaultPreset))
      let level := levelWord ((arguments.get? "log_level").getD (.text defaultLevel))
      match preset, level with
      | .ok preset, .ok level => make preset level
      | .ok preset, .error fault =>
          if (Preset.ofName? preset).isSome then .error fault else .error (.unknownPreset preset)
      | .error fault, _ => .error fault

/-! ## From a mapping -/

/-- A value taken as text, unless it holds a number too long to show. -/
def wordOf (value : Setting) : Except Fault Text :=
  if value.isShowable then .ok value.toText else .error .numberTooLong

def ignored (key : Text) : Record := ⟨.warning, .config, "Ignoring unknown config key: " ++ key⟩

def readEntries : List (Setting × Setting) → Draft → Report Fault Draft
  | [], draft => pure draft
  | (key, value) :: rest, draft => do
      let key ← .ofExcept (wordOf key)
      if key.toLower = "preset" then
        let word ← .ofExcept (wordOf value)
        readEntries rest { draft with preset := some word }
      else if key.toLower = "log_level" then
        let word ← .ofExcept (wordOf value)
        readEntries rest { draft with logLevel := some word }
      else
        Report.record (ignored key)
        readEntries rest draft

def ofSetting : Setting → Report Fault Config
  | .mapping entries => do
      let draft ← readEntries entries .empty
      .ofExcept draft.make
  | value => .ofExcept (.error (.notMapping value.typeName))

/-- The configuration a file's value gives. A value that is vacant, of whatever type,
counts as an empty mapping. -/
def ofFile (value : Setting) : Report Fault Config :=
  ofSetting (if value.isVacant then .mapping [] else value)

end Config

end BlockWire
