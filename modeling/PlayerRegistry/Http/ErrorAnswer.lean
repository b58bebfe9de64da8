import PlayerRegistry.Error
import PlayerRegistry.Json.Basic

/-!
# Errors as answers

The status and the body with which an error is reported. What went wrong inside the server is not
told to the client.
-/

namespace PlayerRegistry.Error

def status : Error → Nat
  | validation .. => 400
  | authentication _ => 401
  | forbidden _ => 403
  | conflict _ => 409
  | externalFetch _ => 502
  | notFound _ => 404
  | rateLimited => 429
  | storage _ | assetStorage _ | key _ | config _ | internal _ | io _ => 500

/-- The word for the error that a client can rely on. -/
def code : Error → String
  | validation .. => "InvalidRequest"
  | authentication _ => "AuthenticationRequired"
  | forbidden _ => "Forbidden"
  | conflict _ => "Conflict"
  | externalFetch _ => "ExternalFetchFailed"
  | notFound _ => "NotFound"
  | rateLimited => "RateLimitExceeded"
  | storage _ | assetStorage _ | key _ | config _ | internal _ | io _ => "InternalServerError"

def publicMessage (e : Error) : String :=
  if e.status = 500 then "Internal server error" else e.message

def body (e : Error) : Json :=
  .object [("error", .string e.code), ("message", .string e.publicMessage)]

end PlayerRegistry.Error
