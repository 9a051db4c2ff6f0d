import Ldktela.Api.Errors

/-!
# What the client reads in an error response

`decode`, `readJson`, `readErrorBody` and `readFieldErrors` of `desktop/src/api/client.ts`, against
the responses of `Api.Errors`.  The body need not come from the server: a proxy in between answers
in its own words, and those fall back on a message of the client.
-/

namespace Ldktela
namespace Desktop
namespace ErrorText

open Api.Errors

/-- `ApiError`: what a caller gets of a response that is not `ok`. -/
structure ApiError where
  status : Nat
  code : String
  message : String
  requestId : Option String
  details : Option (List FieldError)
deriving DecidableEq

/-- A response, with its `X-Request-Id`. -/
structure Reply where
  status : Nat
  requestId : Option String
  text : List Char

def Reply.ok (reply : Reply) : Bool :=
  200 ≤ reply.status && reply.status < 300

def fallbackMessages : Nat → Option String
  | 400 => some "Requisição inválida."
  | 401 => some "Sessão expirada."
  | 403 => some "Você não tem permissão para isso."
  | 404 => some "Não encontrado."
  | 409 => some "Conflito com o estado atual."
  | 429 => some "Muitas requisições. Tente de novo em instantes."
  | _ => none

def asRecord : Json → Option Json
  | .obj fields => some (.obj fields)
  | .arr items => some (.arr items)
  | _ => none

def asString : Json → Option String
  | .str s => some s
  | _ => none

/-- An empty body, or one that is no JSON, is `null`. -/
def readJson (text : List Char) : Json :=
  if text = [] then .null else (Json.parse text).getD .null

/-- An entry without a field and a code is left out. -/
def readFieldErrors : Option Json → Option (List FieldError)
  | some (.arr entries) =>
      some (entries.filterMap fun entry =>
        (asRecord entry).bind fun record =>
          match (record.field "field").bind asString, (record.field "code").bind asString with
          | some field, some code => some ⟨field, code⟩
          | _, _ => none)
  | _ => none

structure DecodedError where
  code : String
  message : String
  requestId : Option String
  details : Option (List FieldError)

def readErrorBody (raw : Json) : Option DecodedError :=
  (((asRecord raw).bind fun wrapper => wrapper.field "error").bind asRecord).bind fun body =>
    match (body.field "code").bind asString, (body.field "message").bind asString with
    | some code, some message =>
        some ⟨code, message, (body.field "request_id").bind asString,
          readFieldErrors (body.field "details")⟩
    | _, _ => none

def decode (reply : Reply) : Except ApiError Json :=
  let raw := readJson reply.text
  if reply.ok then
    .ok raw
  else
    match readErrorBody raw with
    | some body =>
        .error ⟨reply.status, body.code, body.message, body.requestId <|> reply.requestId,
          body.details⟩
    | none =>
        .error ⟨reply.status, "UNKNOWN",
          (fallbackMessages reply.status).getD "Falha inesperada no servidor.", reply.requestId,
          none⟩

/-! ## An error of the server -/

theorem readFieldErrors_errorDetails (details : Option (List FieldError)) :
    readFieldErrors (some (errorDetails details)) = details := by
  cases details with
  | none => rfl
  | some fields =>
      show some ((fields.map fieldError).filterMap _) = some fields
      rw [List.filterMap_map]
      refine congrArg some ((List.filterMap_congr fun e _ => ?_).trans (List.filterMap_some))
      simp [fieldError, asRecord, Json.field, asString]

theorem readErrorBody_json (body : ErrorBody) :
    readErrorBody body.json =
      some ⟨body.code, body.message, some body.requestId, body.details⟩ := by
  simp [readErrorBody, ErrorBody.json, asRecord, Json.field, asString,
    readFieldErrors_errorDetails]

section

variable (json : Json.Writer)

theorem readJson_toText (v : Json) : readJson (json.toText v) = v := by
  rw [readJson, if_neg (json.toText_ne_nil v), json.parse_toText, Option.getD_some]

theorem not_ok_respond (requestId : String) (e : AppError) (header : Option String) :
    Reply.ok ⟨(respond json requestId e).status, header, (respond json requestId e).body⟩ =
      false := by
  cases e <;> rfl

/-- Every error of the server arrives as the error it is: with its status, its code, its message,
its fields and the id of the request, whatever the header says. -/
theorem decode_respond (requestId : String) (e : AppError) (header : Option String) :
    decode ⟨(respond json requestId e).status, header, (respond json requestId e).body⟩ =
      .error ⟨e.status, e.code.asStr, e.message, some requestId, e.details⟩ := by
  rw [decode, not_ok_respond]
  show (match readErrorBody (readJson (respond json requestId e).body) with
    | some body => _
    | none => _) = _
  rw [respond, readJson_toText, readErrorBody_json]
  rfl

end

end ErrorText
end Desktop
end Ldktela
