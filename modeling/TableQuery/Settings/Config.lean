import TableQuery.Settings.Address
import TableQuery.Settings.Options

/-!
# Settings of the programs

The service is told where to listen and where its tables are.  The command line is
told where its tables are, or which service it sends its queries to.
-/

namespace TableQuery
namespace Settings

def addressName : String :=
  "addr"

def dataDirName : String :=
  "data-dir"

def serverName : String :=
  "server"

/-- An address must be one, and the name of a directory must not be empty. -/
def checkValue (name value : String) : Except Fault Unit :=
  if name = addressName && (Address.read? value).isNone then .error .badAddress
  else if name = dataDirName && value.isEmpty then .error .noValue
  else .ok ()

def defaultAddress : Address :=
  .short { a := 127, b := 0, c := 0, d := 1 } 7878

def defaultDataDir : String :=
  "./data"

/-!
## The service
-/

structure Config where
  address : Address
  dataDir : String
  deriving Repr, DecidableEq

namespace Config

def options : Options :=
  { names := [addressName, dataDirName], check := checkValue }

/-- The settings that the arguments give, with defaults for those they do not. -/
def ofArguments (arguments : List String) : Except Fault Config := do
  let values ← options.read arguments
  pure
    { address := ((values.lookup addressName).bind Address.read?).getD defaultAddress
      dataDir := (values.lookup dataDirName).getD defaultDataDir }

end Config

/-!
## The command line
-/

structure SessionConfig where
  dataDir : String
  server : Option String
  deriving Repr, DecidableEq

namespace SessionConfig

def options : Options :=
  { names := [dataDirName, serverName], check := checkValue }

def ofArguments (arguments : List String) : Except Fault SessionConfig := do
  let values ← options.read arguments
  pure
    { dataDir := (values.lookup dataDirName).getD defaultDataDir
      server := values.lookup serverName }

end SessionConfig

end Settings
end TableQuery
