import Hooklog.Text.Quoted
import Hooklog.Text.Words
import Hooklog.Decimal.Integer

/-!
# Failures

Everything that can go wrong is a value of `LogError`, which records the cause.  The
wording of all of them is in `LogError.message`.
-/

namespace Hooklog

/-- Why a text or a number is no level. -/
inductive LevelFault where
  /-- An integer that is no ordinal of a level. -/
  | outOfRange
  /-- A text that is neither a name nor an integer. -/
  | unknownName
  /-- A reason given by the application. -/
  | other (reason : String)
  deriving DecidableEq, Repr

/-- What a template or its options refer to in vain. -/
inductive TemplateFault where
  /-- A name that is neither a keyword nor a color. -/
  | unknownAttribute (name : String)
  /-- A list of attributes without any known one. -/
  | noAttribute
  /-- A time layout with an unknown specifier. -/
  | badTimeLayout (layout : String)
  /-- A fault stated by the application. -/
  | other (text : String)
  deriving DecidableEq, Repr

/-- Step of the work on a log file that the system refused. -/
inductive FileStep where
  | creatingDirectory
  | openingFile
  /-- A step named by the application. -/
  | other (name : String)
  deriving DecidableEq, Repr

/-- Why a configured value is refused. -/
inductive ConfigurationFault where
  /-- A keyword that no duration format knows, in the text given. -/
  | unknownKeyword (keyword text : String)
  /-- The facade of the process already delivers to a logger. -/
  | facadeTaken
  /-- Named values of a record that cannot be read, in the words of what holds them. -/
  | unreadableValues (reason : String)
  /-- A reason given by the application. -/
  | other (reason : String)
  deriving DecidableEq, Repr

/-- A failure of the logging process. -/
inductive LogError where
  /-- A text or number that is no level. -/
  | invalidLevel (input : String) (reason : LevelFault)
  /-- Everything that failed to resolve in one template or attribute list. -/
  | template (faults : List TemplateFault)
  /-- A failure raised by a hook. -/
  | hook (identity : String) (source : LogError)
  /-- A destination that took fewer bytes than it was given. -/
  | shortWrite (written : Nat) (text : String)
  /-- A step on a log file that failed. -/
  | fileStep (step : FileStep) (subject : String)
  /-- A failure of a stream, in the words of the system. -/
  | io (text : String)
  /-- No hook of that name. -/
  | hookNotFound (name : String)
  /-- An operation that the destination of a hook does not offer. -/
  | unsupported (hook operation : String)
  /-- A destination that panicked. -/
  | hookPanic (hook message : String)
  /-- A configured value that is refused. -/
  | invalidConfiguration (component : String) (reason : ConfigurationFault)
  /-- The failures of one dispatch or of several. -/
  | dispatch (errors : List LogError)
  deriving Repr

/-- Names listed when a level is refused. -/
def acceptedLevels : List String :=
  ["disabled", "panic", "fatal", "error", "warning", "info", "debug", "trace"]

/-- The accepted names in one line. -/
def acceptedLevelsText : String := Text.joinWith ", " acceptedLevels

/-- Wording of a level fault. -/
def LevelFault.message : LevelFault → String
  | .outOfRange => "ordinal out of range"
  | .unknownName => "not a valid level, accepted values are " ++ acceptedLevelsText
  | .other reason => reason

/-- Wording of a template fault. -/
def TemplateFault.message : TemplateFault → String
  | .unknownAttribute name => "Attribute not found " ++ name
  | .noAttribute => "No attribute specified"
  | .badTimeLayout layout => "Invalid time layout " ++ Text.quoted layout
  | .other text => text

/-- Wording of a step on a log file. -/
def FileStep.name : FileStep → String
  | .creatingDirectory => "creating log directory"
  | .openingFile => "opening log file"
  | .other name => name

/-- Wording of a configuration fault. -/
def ConfigurationFault.message : ConfigurationFault → String
  | .unknownKeyword keyword text => "unknown keyword '" ++ keyword ++ "' in '" ++ text ++ "'"
  | .facadeTaken =>
      "attempted to set a logger after the logging system was already initialized"
  | .unreadableValues reason => "cannot read key-values: " ++ reason
  | .other reason => reason

mutual

/-- Wording of a failure. -/
def LogError.message : LogError → String
  | .invalidLevel input reason =>
      "Unable to parse logging level '" ++ input ++ "': " ++ reason.message
  | .template faults => Text.joinWith "\n" (faults.map TemplateFault.message)
  | .hook identity source => identity ++ ": " ++ source.message
  | .shortWrite written text =>
      "Wrong number of bytes written (" ++ Decimal.naturalText written ++ ") for "
        ++ Text.quoted text
  | .fileStep step subject => "IO error while " ++ step.name ++ ": " ++ subject
  | .io text => text
  | .hookNotFound name => "Hook not found " ++ name
  | .unsupported owner operation => "Hook " ++ owner ++ " does not support " ++ operation
  | .hookPanic owner text => owner ++ " panicked: " ++ text
  | .invalidConfiguration component reason =>
      "Invalid configuration for " ++ component ++ ": " ++ reason.message
  | .dispatch errors => Text.joinWith "\n" (LogError.messages errors)

/-- Wordings of failures, in order. -/
def LogError.messages : List LogError → List String
  | [] => []
  | e :: rest => e.message :: LogError.messages rest

end

/-- Reason for which the process would stop if nobody caught it. -/
inductive Fault where
  /-- A field wider than a text may be padded to. -/
  | oversizedWidth
  /-- An instant moved out of the calendar. -/
  | instantOverflow
  /-- A local time out of the calendar. -/
  | localTimeOverflow
  /-- A span that a carry into its seconds makes too long. -/
  | spanOverflow
  /-- A failure that the caller declared impossible. -/
  | unexpected (error : LogError)
  /-- A text thrown by a stream or an application. -/
  | thrown (message : String)
  /-- A value without text thrown by an application. -/
  | wordless
  deriving Repr

/-- A text between grave accents. -/
def backquoted (s : String) : String :=
  String.ofList [Char.ofNat 96] ++ s ++ String.ofList [Char.ofNat 96]

/-- Wording of a fault. -/
def Fault.message : Fault → String
  | .oversizedWidth => "Formatting argument out of range"
  | .instantOverflow => backquoted "DateTime + TimeDelta" ++ " overflowed"
  | .localTimeOverflow => "Local time out of range for " ++ backquoted "NaiveDateTime"
  | .spanOverflow => "overflow in Duration::new"
  | .unexpected error => error.message
  | .thrown message => message
  | .wordless => "unknown panic"

/-- What ends a computation early: a failure that is reported, or a fault that stops the
process. -/
inductive Stop where
  | failed (error : LogError)
  | stopped (fault : Fault)
  deriving Repr

/-- Why nothing was read from a text: it does not have the form asked for, or reading it
stops the process. -/
inductive Unread where
  | malformed
  | stopped (fault : Fault)
  deriving Repr

namespace Unread

/-- What was read, if the text has the form asked for. -/
def ofOption {α : Type} : Option α → Except Unread α
  | some a => .ok a
  | none => .error .malformed

/-- What was read, passing over a text of another form. -/
def settled {α : Type} : Except Unread α → Except Fault (Option α)
  | .ok a => .ok (some a)
  | .error .malformed => .ok none
  | .error (.stopped fault) => .error fault

end Unread

/-- Failures are reported unless they come as a list; an empty list is no failure. -/
def dispatchResult : List LogError → Except LogError Unit
  | [] => .ok ()
  | errors => .error (.dispatch errors)

end Hooklog
