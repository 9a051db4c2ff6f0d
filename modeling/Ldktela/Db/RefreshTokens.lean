import Ldktela.Lib.Keyed
import Ldktela.Protocol

/-!
# `refresh_tokens`

`crates/db/src/repo/refresh_tokens.rs`.  A token belongs to a family, and is
identified by its id; the hash of its secret is unique in the table.  Every
function here is one SQL statement.
-/

namespace Ldktela
namespace Db

open Protocol

/-- The hash of a refresh secret. -/
abbrev TokenHash := Nat

structure RefreshTokenRow where
  familyId : Uuid
  userId : Uuid
  tokenHash : TokenHash
  expiresAt : Timestamp
  consumedAt : Option Timestamp
  revokedAt : Option Timestamp
deriving DecidableEq

namespace RefreshTokenRow

/-- Neither consumed nor revoked. -/
def isLive (row : RefreshTokenRow) : Bool :=
  row.consumedAt.isNone && row.revokedAt.isNone

def isUsable (now : Timestamp) (row : RefreshTokenRow) : Bool :=
  row.consumedAt.isNone && row.revokedAt.isNone && decide (now < row.expiresAt)

theorem isUsable_eq (now : Timestamp) (row : RefreshTokenRow) :
    row.isUsable now = (row.isLive && decide (now < row.expiresAt)) := rfl

/-- `consumed_at = NOW()`, under the guard of `consume`. -/
def consume (now : Timestamp) (row : RefreshTokenRow) : RefreshTokenRow :=
  if row.isLive then { row with consumedAt := some now } else row

/-- `revoked_at = NOW()`, under the guard of `revoke_family`. -/
def revoke (now : Timestamp) (row : RefreshTokenRow) : RefreshTokenRow :=
  if row.revokedAt.isNone then { row with revokedAt := some now } else row

@[simp]
theorem consume_familyId (now : Timestamp) (row : RefreshTokenRow) :
    (row.consume now).familyId = row.familyId := by
  unfold consume
  split
  · rfl
  · rfl

@[simp]
theorem consume_tokenHash (now : Timestamp) (row : RefreshTokenRow) :
    (row.consume now).tokenHash = row.tokenHash := by
  unfold consume
  split
  · rfl
  · rfl

@[simp]
theorem revoke_familyId (now : Timestamp) (row : RefreshTokenRow) :
    (row.revoke now).familyId = row.familyId := by
  unfold revoke
  split
  · rfl
  · rfl

@[simp]
theorem revoke_tokenHash (now : Timestamp) (row : RefreshTokenRow) :
    (row.revoke now).tokenHash = row.tokenHash := by
  unfold revoke
  split
  · rfl
  · rfl

@[simp]
theorem revoke_consumedAt (now : Timestamp) (row : RefreshTokenRow) :
    (row.revoke now).consumedAt = row.consumedAt := by
  unfold revoke
  split
  · rfl
  · rfl

@[simp]
theorem consume_isLive (now : Timestamp) (row : RefreshTokenRow) :
    (row.consume now).isLive = false := by
  unfold consume
  split
  · simp [isLive]
  · next h => simpa using h

@[simp]
theorem revoke_isLive (now : Timestamp) (row : RefreshTokenRow) :
    (row.revoke now).isLive = false := by
  unfold revoke
  split
  · simp [isLive]
  · next h => simp [isLive, h]

end RefreshTokenRow

abbrev RefreshTokens := Table Uuid RefreshTokenRow

namespace RefreshTokens

def findByHash (tokenHash : TokenHash) (t : RefreshTokens) : Option (Uuid × RefreshTokenRow) :=
  (t.entries.find? fun e => e.2.tokenHash = tokenHash).map fun e => (e.1, e.2)

/-- Whether a client that presents the token gets a new one for it. -/
def usable (tokenHash : TokenHash) (now : Timestamp) (t : RefreshTokens) : Bool :=
  match t.findByHash tokenHash with
  | some (_, row) => row.isUsable now
  | none => false

/-- Issues a token.  `familyId` equal to `id` starts a new family.  `none` when
the id or the hash is taken. -/
def insert (id familyId userId : Uuid) (tokenHash : TokenHash) (expiresAt : Timestamp)
    (t : RefreshTokens) : Option RefreshTokens :=
  if id ∈ t ∨ (t.findByHash tokenHash).isSome then
    none
  else
    some (AList.insert id ⟨familyId, userId, tokenHash, expiresAt, none, none⟩ t)

/-- Marks a token consumed, but only if it was neither consumed nor revoked yet;
the answer says whether it did. -/
def consume (now : Timestamp) (id : Uuid) (t : RefreshTokens) : RefreshTokens × Bool :=
  (t.modify id (RefreshTokenRow.consume now),
    match t.lookup id with
    | some row => row.isLive
    | none => false)

/-- Revokes every token in a family. -/
def revokeFamily (now : Timestamp) (familyId : Uuid) (t : RefreshTokens) : RefreshTokens :=
  t.mapVal fun _ row => if row.familyId = familyId then row.revoke now else row

theorem lookup_of_findByHash {tokenHash : TokenHash} {t : RefreshTokens} {id : Uuid}
    {row : RefreshTokenRow} (h : t.findByHash tokenHash = some (id, row)) :
    t.lookup id = some row := by
  obtain ⟨⟨id', row'⟩, hfind, heq⟩ := Option.map_eq_some_iff.mp h
  obtain ⟨rfl, rfl⟩ := Prod.mk.inj heq
  exact AList.mem_entries_iff.mp (List.mem_of_find?_eq_some hfind)

theorem tokenHash_of_findByHash {tokenHash : TokenHash} {t : RefreshTokens} {id : Uuid}
    {row : RefreshTokenRow} (h : t.findByHash tokenHash = some (id, row)) :
    row.tokenHash = tokenHash := by
  obtain ⟨⟨id', row'⟩, hfind, heq⟩ := Option.map_eq_some_iff.mp h
  obtain ⟨rfl, rfl⟩ := Prod.mk.inj heq
  simpa using List.find?_some hfind

/-- The row of a hash after some token was consumed. -/
theorem findByHash_consume (now : Timestamp) (id : Uuid) (tokenHash : TokenHash)
    (t : RefreshTokens) :
    findByHash tokenHash (consume now id t).1 =
      (t.findByHash tokenHash).map fun e =>
        (e.1, if e.1 = id then e.2.consume now else e.2) := by
  have hfind := AList.find?_entries_modify (t := t) id
    (fun row => decide (row.tokenHash = tokenHash)) fun row => by
      rw [RefreshTokenRow.consume_tokenHash now row]
  unfold findByHash
  refine (congrArg (Option.map _) hfind).trans ?_
  rw [Option.map_map, Option.map_map]
  rfl

/-- A consumed token is good for nothing any more. -/
theorem usable_consume {tokenHash : TokenHash} {t : RefreshTokens} {id : Uuid}
    {row : RefreshTokenRow} (h : t.findByHash tokenHash = some (id, row))
    (now later : Timestamp) : usable tokenHash later (consume now id t).1 = false := by
  unfold usable
  rw [findByHash_consume, h]
  simp [RefreshTokenRow.isUsable_eq]

theorem lookup_consume (now : Timestamp) (id id' : Uuid) (t : RefreshTokens) :
    (consume now id t).1.lookup id' =
      if id' = id then (t.lookup id').map (RefreshTokenRow.consume now) else t.lookup id' :=
  AList.lookup_modify t id id' _

theorem lookup_revokeFamily (now : Timestamp) (familyId id : Uuid) (t : RefreshTokens) :
    (revokeFamily now familyId t).lookup id =
      (t.lookup id).map fun row =>
        if row.familyId = familyId then row.revoke now else row :=
  AList.lookup_mapVal t _ id

/-- A row after `consume` comes from a row of the same token and family. -/
theorem exists_of_lookup_consume {now : Timestamp} {id id' : Uuid} {t : RefreshTokens}
    {row : RefreshTokenRow} (h : (consume now id t).1.lookup id' = some row) :
    ∃ old, t.lookup id' = some old ∧ row.familyId = old.familyId := by
  rw [lookup_consume] at h
  split at h
  · obtain ⟨old, hold, rfl⟩ := Option.map_eq_some_iff.mp h
    exact ⟨old, hold, old.consume_familyId now⟩
  · exact ⟨row, h, rfl⟩

/-- A row after `revoke_family` comes from a row of the same token and family. -/
theorem exists_of_lookup_revokeFamily {now : Timestamp} {familyId id : Uuid}
    {t : RefreshTokens} {row : RefreshTokenRow}
    (h : (revokeFamily now familyId t).lookup id = some row) :
    ∃ old, t.lookup id = some old ∧ row.familyId = old.familyId := by
  rw [lookup_revokeFamily] at h
  obtain ⟨old, hold, rfl⟩ := Option.map_eq_some_iff.mp h
  refine ⟨old, hold, ?_⟩
  split
  · exact old.revoke_familyId now
  · rfl

def msPerDay : Nat := 24 * 60 * 60 * 1000

/-- `expires_at < NOW() - make_interval(days => graceDays)`. -/
def expiredFor (graceDays : Nat) (now : Timestamp) (row : RefreshTokenRow) : Bool :=
  decide (row.expiresAt + graceDays * msPerDay < now)

/-- Drops tokens that expired more than `graceDays` ago. -/
def deleteExpired (graceDays : Nat) (now : Timestamp) (t : RefreshTokens) : RefreshTokens :=
  t.retain fun _ row => !expiredFor graceDays now row

end RefreshTokens

end Db
end Ldktela
