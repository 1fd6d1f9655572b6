
/-!
# Responses

What a handler writes back: an error with its status and message, or a status with a body.
-/
namespace Porter.Api

inductive Response (β : Type) where
  | error (status : Nat) (message : String)
  | json (status : Nat) (body : β)
deriving DecidableEq

def statusOK : Nat := 200
def statusCreated : Nat := 201
def statusAccepted : Nat := 202
def statusBadRequest : Nat := 400
def statusUnauthorized : Nat := 401
def statusForbidden : Nat := 403
def statusNotFound : Nat := 404
def statusConflict : Nat := 409
def statusPreconditionFailed : Nat := 412
def statusUnprocessableEntity : Nat := 422
def statusInternalServerError : Nat := 500
def statusServiceUnavailable : Nat := 503

def Response.succeeded {β : Type} : Response β → Bool
  | .error _ _ => false
  | .json status _ => 200 ≤ status && status < 300

def badRequest {β : Type} (err : String) : Response β :=
  .error statusBadRequest ("bad request: " ++ err)

end Porter.Api
