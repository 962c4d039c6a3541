import DocStore.Settings.Basic
import DocStore.Store.Basic

/-!
# Connections

What the settings lead to: a store in the process, which is empty at first, or the
parameters for connecting to a server.
-/

namespace DocStore

namespace Settings

/-- The store that the settings name. Only the engine in the process is built in. -/
def connect (settings : Settings) : Outcome Store :=
  match settings.engine with
  | .memory => .ok .empty
  | .server => .error (.configuration (.unavailable settings.engine.name))

end Settings

/-- The parameters for connecting to a server. -/
structure ServerConnection where
  uri : String
  database : String
  appName : Option String
  connectTimeout : Option UInt64
deriving DecidableEq, Repr

namespace ServerConnection

/-- The parameters that the settings give. -/
def ofSettings (settings : Settings) : ServerConnection :=
  ⟨settings.uri, settings.database, settings.appName, settings.connectTimeout⟩

/-- The same parameters under another name of the application. -/
def withAppName (connection : ServerConnection) (name : String) : ServerConnection :=
  { connection with appName := some name }

/-- The same parameters with another bound on the time. -/
def withTimeout (connection : ServerConnection) (seconds : UInt64) : ServerConnection :=
  { connection with connectTimeout := some seconds }

end ServerConnection

end DocStore
