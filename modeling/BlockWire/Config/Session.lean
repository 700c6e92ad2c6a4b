/- # A running session

The state that configurations act on: the active preset and the root logger. Size
reads give the values of the active preset, and types that are loaded are those of
the preset active at that moment and are not touched by later commands.

The root logger is set up once: as long as it has a handler, another setup leaves it
as it is. A level is applied after the handler is there, so a name that turns out to
be no level leaves a logger with a handler and its old level. A configuration that is
applied says last which preset it brought. -/
import BlockWire.Body.Fields
import BlockWire.Config.Basic

namespace BlockWire

set_option autoImplicit false

/-- How log lines and their times are laid out. -/
structure LineFormat where
  line : Text
  time : Text

def LineFormat.standard : LineFormat :=
  ⟨"%(asctime)s [%(levelname)s] %(name)s: %(message)s", "%Y-%m-%d %H:%M:%S"⟩

structure RootLogger where
  handler : Option LineFormat
  level : Level

namespace RootLogger

def fresh : RootLogger := ⟨none, .warning⟩

def setUp (logger : RootLogger) (level : Level) : RootLogger :=
  match logger.handler with
  | some _ => logger
  | none => ⟨some .standard, level⟩

end RootLogger

structure Session where
  preset : Preset
  logger : RootLogger

namespace Session

def initial : Session := ⟨.mainnet, .fresh⟩

inductive Command where
  | read
  | setPreset (preset : Setting)
  | apply (arguments : Keyed Setting)
  | setUpLogging (level : Setting)
  | resetLogging
  | size (which : PresetSize)
  | loadTypes

inductive Fault where
  | config (fault : Config.Fault)
  | noLevel (upper : Text)
  | noLevelText (content : Text)
  | noLevelTable (shown : Text)
deriving DecidableEq

def Fault.message : Fault → Text
  | .config fault => fault.message
  | .noLevel upper => "module 'logging' has no attribute '" ++ upper ++ "'"
  | .noLevelText content => "Unknown level: " ++ Text.quoted content
  | .noLevelTable shown => "Level not an integer or a valid string: " ++ shown

inductive Answer where
  | done
  | logging (logger : RootLogger)
  | applied (logger : RootLogger) (record : Record)
  | size (n : Nat)
  | types (body : Ty)

def setPreset (s : Session) (name : Text) : Session × Except Fault Answer :=
  match Preset.ofName? name with
  | some preset => ({ s with preset := preset }, .ok .done)
  | none => (s, .error (.config (.unknownPreset name)))

/-- What a taken name does: nothing where a handler is there already, since its level
is not looked at then. -/
def setUpTaken (s : Session) (fault : Fault) : Session × Except Fault Answer :=
  match s.logger.handler with
  | some _ => (s, .ok (.logging s.logger))
  | none => ({ s with logger := s.logger.setUp s.logger.level }, .error fault)

def setUpLogging (s : Session) (level : Text) : Session × Except Fault Answer :=
  let upper := Text.toUpper level
  match Level.ofUpper? upper, Level.taken.lookup upper with
  | some found, _ =>
      let logger := s.logger.setUp found
      ({ s with logger := logger }, .ok (.logging logger))
  | none, some (.text content) => setUpTaken s (.noLevelText content)
  | none, some (.table shown) => setUpTaken s (.noLevelTable shown)
  | none, none => (s, .error (.noLevel upper))

/-- What is logged of a preset that a configuration brought. -/
def inUse (preset : Preset) : Record := ⟨.debug, .config, "Using " ++ preset.name ++ " preset"⟩

def applyConfig (s : Session) (c : Config) : Session × Except Fault Answer :=
  match setUpLogging { s with preset := c.preset } c.logLevel with
  | (s, .ok _) => (s, .ok (.applied s.logger (inUse c.preset)))
  | (s, .error fault) => (s, .error fault)

def step (s : Session) : Command → Session × Except Fault Answer
  | .read => (s, .ok .done)
  | .setPreset preset =>
      match Config.presetWord preset with
      | .ok name => setPreset s name
      | .error fault => (s, .error (.config fault))
  | .apply arguments =>
      match Config.ofArguments arguments with
      | .ok c => applyConfig s c
      | .error fault => (s, .error (.config fault))
  | .setUpLogging level =>
      match Config.levelWord level with
      | .ok name => setUpLogging s name
      | .error fault => (s, .error (.config fault))
  | .resetLogging => ({ s with logger := .fresh }, .ok .done)
  | .size which => (s, .ok (.size (which.value s.preset)))
  | .loadTypes => (s, .ok (.types (Body.type s.preset)))

/-- The state after each command of a run, with what the command gave. -/
def run : Session → List Command → List (Session × Except Fault Answer)
  | _, [] => []
  | s, command :: rest =>
      let next := step s command
      next :: run next.1 rest

end Session

end BlockWire
