import Mathlib.Data.List.Basic
import Ldktela.Lib.Json

/-!
# The error responses of the API

`AppError` of `crates/api/src/error.rs` with the body of `crates/protocol/src/error.rs`.  `respond`
is `into_response`: the status, the `Retry-After` header and the body, in the text that `serde_json`
writes.

A variant may carry what the client must not see: the cause of an internal failure, the message of
an upstream, the resource that was looked for, the reason of a conflict.  `respond_eq_iff` says what
a response tells of its error.
-/

namespace Ldktela
namespace Api
namespace Errors

/-- Upstream dependencies that can fail. -/
inductive UpstreamError where
  | liveKit (message : String)
  | discord (message : String)
deriving DecidableEq

structure FieldError where
  field : String
  code : String
deriving DecidableEq

inductive AppError where
  | unauthorized
  | tokenExpired
  | tokenReused
  | forbidden
  | notFound (resource : String)
  | validation (fields : List FieldError)
  | conflict (reason : String)
  | rateLimited (retryAfterMs : Nat)
  | payloadTooLarge
  | roomCapacity
  | replicaStale
  | upstream (error : UpstreamError)
  | internal (cause : String)
deriving DecidableEq

inductive ErrorCode where
  | validationFailed
  | unauthenticated
  | tokenExpired
  | tokenReused
  | forbidden
  | notFound
  | conflict
  | payloadTooLarge
  | rateLimited
  | internal
  | roomCapacity
  | replicaStale
  | upstreamFailure
deriving DecidableEq

def ErrorCode.asStr : ErrorCode → String
  | .validationFailed => "VALIDATION_FAILED"
  | .unauthenticated => "UNAUTHENTICATED"
  | .tokenExpired => "TOKEN_EXPIRED"
  | .tokenReused => "TOKEN_REUSED"
  | .forbidden => "FORBIDDEN"
  | .notFound => "NOT_FOUND"
  | .conflict => "CONFLICT"
  | .payloadTooLarge => "PAYLOAD_TOO_LARGE"
  | .rateLimited => "RATE_LIMITED"
  | .internal => "INTERNAL"
  | .roomCapacity => "ROOM_CAPACITY"
  | .replicaStale => "REPLICA_STALE"
  | .upstreamFailure => "UPSTREAM_FAILURE"

namespace AppError

def status : AppError → Nat
  | .unauthorized | .tokenExpired | .tokenReused => 401
  | .forbidden => 403
  | .notFound _ => 404
  | .validation _ => 400
  | .conflict _ | .roomCapacity => 409
  | .rateLimited _ => 429
  | .payloadTooLarge => 413
  -- not a conflict of state: the service cannot answer safely now
  | .replicaStale => 503
  | .upstream _ => 502
  | .internal _ => 500

def code : AppError → ErrorCode
  | .unauthorized => .unauthenticated
  | .tokenExpired => .tokenExpired
  | .tokenReused => .tokenReused
  | .forbidden => .forbidden
  | .notFound _ => .notFound
  | .validation _ => .validationFailed
  | .conflict _ => .conflict
  | .rateLimited _ => .rateLimited
  | .payloadTooLarge => .payloadTooLarge
  | .roomCapacity => .roomCapacity
  | .replicaStale => .replicaStale
  | .upstream _ => .upstreamFailure
  | .internal _ => .internal

/-- Displayable, and free of internal detail. -/
def message : AppError → String
  | .unauthorized => "Autenticação necessária."
  | .tokenExpired => "Sua sessão expirou. Renovando…"
  | .tokenReused => "Sua sessão foi encerrada por segurança. Entre novamente."
  | .forbidden => "Você não tem permissão para esta ação."
  | .notFound _ => "Não encontrado."
  | .validation _ => "Alguns campos estão inválidos."
  | .conflict _ => "A operação conflita com o estado atual."
  | .rateLimited _ => "Muitas requisições. Tente novamente em instantes."
  | .payloadTooLarge => "Requisição grande demais."
  | .roomCapacity => "A sala já tem o número máximo de telas sendo compartilhadas."
  | .replicaStale => "Sem contato com o Discord no momento. Tente novamente em instantes."
  | .upstream _ => "Um serviço externo falhou. Tente novamente."
  | .internal _ => "Erro interno."

def details : AppError → Option (List FieldError)
  | .validation fields => some fields
  | _ => none

/-- Whole seconds, rounded up and at least one. -/
def retryAfter : AppError → Option Nat
  | .rateLimited retryAfterMs => some (max ((retryAfterMs + 999) / 1000) 1)
  | _ => none

end AppError

/-! ## The response -/

def fieldError (e : FieldError) : Json :=
  .obj [("field", .str e.field), ("code", .str e.code)]

/-- `details` is not skipped when there are none. -/
def errorDetails : Option (List FieldError) → Json
  | none => .null
  | some fields => .arr (fields.map fieldError)

structure ErrorBody where
  code : String
  message : String
  details : Option (List FieldError)
  requestId : String

/-- `ErrorResponse`. -/
def ErrorBody.json (body : ErrorBody) : Json :=
  .obj [("error", .obj [("code", .str body.code), ("message", .str body.message),
    ("details", errorDetails body.details), ("request_id", .str body.requestId)])]

structure Response where
  status : Nat
  retryAfter : Option Nat
  body : List Char
deriving DecidableEq

def respond (json : Json.Writer) (requestId : String) (e : AppError) : Response where
  status := e.status
  retryAfter := e.retryAfter
  body := json.toText (ErrorBody.json ⟨e.code.asStr, e.message, e.details, requestId⟩)

/-! ## What a response tells -/

/-- The error with everything blanked that is for the log. -/
def disclosed : AppError → AppError
  | .notFound _ => .notFound ""
  | .conflict _ => .conflict ""
  | .upstream _ => .upstream (.discord "")
  | .internal _ => .internal ""
  -- the header counts whole seconds
  | .rateLimited retryAfterMs => .rateLimited (1000 * max ((retryAfterMs + 999) / 1000) 1)
  | e => e

theorem disclosed_status (e : AppError) : (disclosed e).status = e.status := by
  cases e <;> rfl

theorem disclosed_code (e : AppError) : (disclosed e).code = e.code := by
  cases e <;> rfl

theorem disclosed_message (e : AppError) : (disclosed e).message = e.message := by
  cases e <;> rfl

theorem disclosed_details (e : AppError) : (disclosed e).details = e.details := by
  cases e <;> rfl

theorem disclosed_retryAfter (e : AppError) : (disclosed e).retryAfter = e.retryAfter := by
  cases e with
  | rateLimited ms =>
      show some (max ((1000 * max ((ms + 999) / 1000) 1 + 999) / 1000) 1) =
        some (max ((ms + 999) / 1000) 1)
      congr 1
      omega
  | _ => rfl

theorem asStr_inj {c c' : ErrorCode} (h : c.asStr = c'.asStr) : c = c' := by
  cases c <;> cases c' <;> first | rfl | exact absurd h (by decide)

theorem fieldError_inj {e e' : FieldError} (h : fieldError e = fieldError e') : e = e' := by
  obtain ⟨field, code⟩ := e
  obtain ⟨field', code'⟩ := e'
  simpa [fieldError] using h

theorem errorDetails_inj {d d' : Option (List FieldError)} (h : errorDetails d = errorDetails d') :
    d = d' := by
  cases d with
  | none => cases d' with
      | none => rfl
      | some fields' => cases h
  | some fields => cases d' with
      | none => cases h
      | some fields' =>
          have hmap : fields.map fieldError = fields'.map fieldError := by
            simpa [errorDetails] using h
          rw [List.map_injective_iff.mpr (fun _ _ => fieldError_inj) hmap]

/-- The code, the fields and the wait name the error that is disclosed. -/
theorem disclosed_eq_of {e e' : AppError} (hcode : e.code = e'.code)
    (hdetails : e.details = e'.details) (hretry : e.retryAfter = e'.retryAfter) :
    disclosed e = disclosed e' := by
  cases e with
  | validation fields =>
      cases e' with
      | validation fields' => rw [show fields = fields' from Option.some.inj hdetails]
      | _ => cases hcode
  | rateLimited ms =>
      cases e' with
      | rateLimited ms' =>
          have hmax : max ((ms + 999) / 1000) 1 = max ((ms' + 999) / 1000) 1 :=
            Option.some.inj hretry
          rw [disclosed, disclosed, hmax]
      | _ => cases hcode
  | _ =>
      cases e' with
      | _ => first | rfl | cases hcode

/-- Two errors get the same response exactly when they disclose the same. -/
theorem respond_eq_iff (json : Json.Writer) (requestId : String) (e e' : AppError) :
    respond json requestId e = respond json requestId e' ↔ disclosed e = disclosed e' := by
  constructor
  · intro h
    have hbody := json.toText_inj (congrArg Response.body h)
    simp only [ErrorBody.json, Json.obj.injEq, List.cons.injEq, Prod.mk.injEq, Json.str.injEq,
      true_and, and_true] at hbody
    obtain ⟨hcode, -, hdetails⟩ := hbody
    exact disclosed_eq_of (asStr_inj hcode) (errorDetails_inj hdetails)
      (congrArg Response.retryAfter h)
  · intro h
    simp only [respond]
    rw [← disclosed_status e, ← disclosed_retryAfter e, ← disclosed_code e, ← disclosed_message e,
      ← disclosed_details e, h, disclosed_status, disclosed_retryAfter, disclosed_code,
      disclosed_message, disclosed_details]

end Errors
end Api
end Ldktela
