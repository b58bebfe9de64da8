/-!
# Errors

What a request can fail with, and how each failure is worded.
-/

namespace PlayerRegistry

inductive Error where
  /-- Input that breaks a rule of the named form field. -/
  | validation (field reason : String)
  /-- Wrong credentials, or no live session. -/
  | authentication (text : String)
  /-- Refused by the configured policy. -/
  | forbidden (text : String)
  /-- A value that must be unique is in use. -/
  | conflict (text : String)
  /-- A remote source could not be reached or gave no usable answer. -/
  | externalFetch (text : String)
  | notFound (text : String)
  /-- The account table holds something it cannot read back. -/
  | storage (text : String)
  | assetStorage (text : String)
  | key (text : String)
  | config (text : String)
  | rateLimited
  | internal (text : String)
  | io (text : String)
  deriving Repr, DecidableEq, Inhabited

abbrev Result := Except Error

def Error.message : Error → String
  | .validation field reason => "Invalid " ++ field ++ ": " ++ reason
  | .authentication text => "Authentication failed: " ++ text
  | .forbidden text => "Not permitted: " ++ text
  | .conflict text => "Conflict: " ++ text
  | .externalFetch text => "External fetch failed: " ++ text
  | .notFound text => "Not found: " ++ text
  | .storage text => "Storage error: " ++ text
  | .assetStorage text => "Asset storage error: " ++ text
  | .key text => "Signing key error: " ++ text
  | .config text => "Configuration error: " ++ text
  | .rateLimited => "Rate limit exceeded"
  | .internal text => "Internal error: " ++ text
  | .io text => "IO error: " ++ text

/-- A query that had to find a row found none. -/
def Error.noRows : Error :=
  .storage "no rows returned by a query that expected to return at least one row"

end PlayerRegistry
