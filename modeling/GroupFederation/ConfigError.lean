import GroupFederation.Text.Quoted

/-!
# Configuration errors

Every reason for which a configuration is refused at startup. The first fault found is the one
that is reported, and its text names the entry that has to be mended.
-/

namespace GroupFederation

/-- Why a configuration is refused. -/
inductive ConfigError where
  | unknownProviderKind (provider kind : String)
  | missingField (provider field : String)
  | noProviders
  | invalidTimeout (provider : String)
  | multipleAuthoritativeProviders (providers : List String)
  | missingValidatorUrl (validator : String)
  | httpClient (provider reason : String)
  deriving DecidableEq, Repr

namespace ConfigError

/-- The text shown to the operator. -/
def message : ConfigError → String
  | .unknownProviderKind provider kind =>
      "Unknown provider kind '" ++ kind ++ "' for provider '" ++ provider ++ "'"
  | .missingField provider field =>
      "Provider '" ++ provider ++ "' is missing required field '" ++ field ++ "'"
  | .noProviders => "No group providers configured"
  | .invalidTimeout provider =>
      "Provider '" ++ provider ++ "' must have a timeout greater than zero"
  | .multipleAuthoritativeProviders providers =>
      "Only one authoritative provider may be configured, found: " ++ Text.quotedList providers
  | .missingValidatorUrl validator =>
      "Token validator '" ++ validator ++ "' has no introspection url"
  | .httpClient provider reason =>
      "Failed to build HTTP client for '" ++ provider ++ "': " ++ reason

end ConfigError

end GroupFederation
