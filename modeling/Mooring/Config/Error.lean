namespace Mooring.Config

/-- Why the configuration cannot be used. -/
inductive ConfigError where
  | missingRequired (key hint : String)
  | invalidValue (key message : String)
  | file (path reason : String)
  deriving DecidableEq

namespace ConfigError

def message : ConfigError → String
  | .missingRequired key hint => "Missing required configuration: " ++ key ++ ". " ++ hint
  | .invalidValue key message => "Invalid configuration value for " ++ key ++ ": " ++ message
  | .file path reason => "Failed to read " ++ path ++ ": " ++ reason

def kind : ConfigError → String
  | .missingRequired .. => "MissingRequired"
  | .invalidValue .. => "InvalidValue"
  | .file .. => "File"

end ConfigError

end Mooring.Config
