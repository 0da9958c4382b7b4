import ScatterGather.Duration
import ScatterGather.Settings.Variable

/-!
# Settings

How long a gathering call may take, how long a connection may take to open, and how many packets a
mailbox holds. Each comes from the environment, else from the settings file, else from a default.
-/

namespace ScatterGather

/-- The settings of a dispatcher. -/
structure Settings where
  defaultTimeoutMs : UInt64 := 10000
  connectTimeoutMs : UInt64 := 5000
  mailboxCapacity : UInt64 := 64
deriving DecidableEq, Repr

namespace Settings

/-- The value given for a name; of several the last counts. -/
def find? (given : List (String × Setting)) (name : String) : Option Setting :=
  (given.reverse.find? fun entry => entry.1 = name).map Prod.snd

/-- Why settings cannot be loaded. -/
inductive Fault where
  | malformedFile
  | notACount (name : String)
deriving DecidableEq, Repr

/-- The count given for a name, or the default. -/
def countOr (given : List (String × Setting)) (name : String) (default : UInt64) :
    Except Fault UInt64 :=
  match find? given name with
  | none => .ok default
  | some setting =>
    match setting.count? with
    | some n => .ok (UInt64.ofNat n)
    | none => .error (.notACount name)

/-- The settings of a list of values by name. -/
def ofGiven (given : List (String × Setting)) : Except Fault Settings := do
  let standard : Settings := {}
  let defaultTimeoutMs ← countOr given "default_timeout_ms" standard.defaultTimeoutMs
  let connectTimeoutMs ← countOr given "connect_timeout_ms" standard.connectTimeoutMs
  let mailboxCapacity ← countOr given "mailbox_capacity" standard.mailboxCapacity
  return { defaultTimeoutMs, connectTimeoutMs, mailboxCapacity }

/-- Loads settings from the text of a file, if there is one, and from the environment. -/
def load (file : Option String) (environment : List (String × String)) :
    Except Fault Settings := do
  let fromFile ← match file with
    | none => pure []
    | some text =>
      match readFile? text with
      | some given => pure given
      | none => throw .malformedFile
  ofGiven (fromFile ++ environment.filterMap fun (name, value) => ofVariable name value)

/-- How long a gathering call may take when its caller does not say. -/
def defaultTimeout (s : Settings) : Duration :=
  .ofMilliseconds s.defaultTimeoutMs.toNat

/-- How long a connection may take to open. -/
def connectTimeout (s : Settings) : Duration :=
  .ofMilliseconds s.connectTimeoutMs.toNat

end Settings
end ScatterGather
