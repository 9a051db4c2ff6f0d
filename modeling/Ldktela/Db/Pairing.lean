import Ldktela.Lib.Keyed
import Ldktela.Protocol

/-!
# `pairing_codes`

`crates/db/src/repo/pairing.rs`.  A pairing code is a bearer credential; only its
hash is stored, and the hash is unique in the table.
-/

namespace Ldktela
namespace Db

open Protocol

/-- The hash of a pairing code. -/
abbrev CodeHash := Nat

structure PairingRow where
  codeHash : CodeHash
  discordUserId : Snowflake
  discordGuildId : Snowflake
  expiresAt : Timestamp
  consumedAt : Option Timestamp
deriving DecidableEq

/-- A consumed pairing code, with the identity it carried. -/
structure ConsumedCode where
  discordUserId : Snowflake
  discordGuildId : Snowflake
deriving DecidableEq

namespace PairingRow

/-- The guard of `consume`. -/
def isUsable (now : Timestamp) (row : PairingRow) : Bool :=
  row.consumedAt.isNone && decide (now < row.expiresAt)

def consume (now : Timestamp) (row : PairingRow) : PairingRow :=
  if row.isUsable now then { row with consumedAt := some now } else row

@[simp]
theorem consume_codeHash (now : Timestamp) (row : PairingRow) :
    (row.consume now).codeHash = row.codeHash := by
  unfold consume
  split
  · rfl
  · rfl

end PairingRow

abbrev PairingCodes := Table Uuid PairingRow

namespace PairingCodes

/-- The row of a code. -/
def findByHash (codeHash : CodeHash) (t : PairingCodes) : Option (Uuid × PairingRow) :=
  (t.entries.find? fun e => e.2.codeHash = codeHash).map fun e => (e.1, e.2)

/-- Whether a client that presents the code is let in. -/
def usable (codeHash : CodeHash) (now : Timestamp) (t : PairingCodes) : Bool :=
  match t.findByHash codeHash with
  | some (_, row) => row.isUsable now
  | none => false

/-- Consume a code, atomically.  `none` for every failure mode there is: unknown,
expired, already used. -/
def consume (codeHash : CodeHash) (now : Timestamp) (t : PairingCodes) :
    PairingCodes × Option ConsumedCode :=
  match t.findByHash codeHash with
  | none => (t, none)
  | some (id, row) =>
      if row.isUsable now then
        (t.modify id (PairingRow.consume now), some ⟨row.discordUserId, row.discordGuildId⟩)
      else
        (t, none)

theorem of_findByHash {t : PairingCodes} {codeHash : CodeHash} {id : Uuid} {row : PairingRow}
    (h : t.findByHash codeHash = some (id, row)) :
    t.lookup id = some row ∧ row.codeHash = codeHash := by
  obtain ⟨⟨id', row'⟩, hfind, heq⟩ := Option.map_eq_some_iff.mp h
  cases heq
  exact ⟨AList.mem_entries_iff.mp (List.mem_of_find?_eq_some hfind), by
    simpa using List.find?_some hfind⟩

theorem codeHash_ne_of_findByHash {t : PairingCodes} {codeHash : CodeHash} {id : Uuid}
    {row : PairingRow} (h : t.findByHash codeHash = none) (hlookup : t.lookup id = some row) :
    row.codeHash ≠ codeHash := by
  have hnone := List.find?_eq_none.mp (Option.map_eq_none_iff.mp h) ⟨id, row⟩
    (AList.mem_entries_iff.mpr hlookup)
  simpa using hnone

/-- Rewriting rows in place moves no hash. -/
theorem findByHash_modify {t : PairingCodes} {codeHash : CodeHash} (id : Uuid)
    {f : PairingRow → PairingRow} (hf : ∀ row, (f row).codeHash = row.codeHash) :
    findByHash codeHash (t.modify id f) =
      (t.findByHash codeHash).map fun e => (e.1, if e.1 = id then f e.2 else e.2) := by
  have hfind := AList.find?_entries_modify (t := t) id
    (fun row => decide (row.codeHash = codeHash)) fun row => by rw [hf]
  unfold findByHash
  refine (congrArg (Option.map _) hfind).trans ?_
  rw [Option.map_map, Option.map_map]
  rfl

theorem consume_of_not_usable {t : PairingCodes} {codeHash : CodeHash} {now : Timestamp}
    (h : t.usable codeHash now = false) : t.consume codeHash now = (t, none) := by
  unfold consume
  unfold usable at h
  split
  · rfl
  · next id row hfind =>
      rw [hfind] at h
      simp only at h
      rw [h]
      rfl

/-- A code that was usable is spent: no later request gets in with it. -/
theorem consume_of_usable {t : PairingCodes} {codeHash : CodeHash} {now : Timestamp}
    (h : t.usable codeHash now = true) :
    ∃ row, (∃ id, t.findByHash codeHash = some (id, row)) ∧
      (t.consume codeHash now).2 = some ⟨row.discordUserId, row.discordGuildId⟩ ∧
      ∀ later, (t.consume codeHash now).1.usable codeHash later = false := by
  unfold usable at h
  split at h
  · next id row hfind =>
      refine ⟨row, ⟨id, hfind⟩, ?_⟩
      unfold consume
      simp only [hfind, h, if_true, true_and]
      intro later
      have hspent : (row.consume now).isUsable later = false := by
        rw [PairingRow.consume, if_pos h]
        rfl
      unfold usable
      rw [findByHash_modify id (PairingRow.consume_codeHash now), hfind]
      simp [hspent]
  · cases h

end PairingCodes

/-! ## When a code was asked for -/

/-- A row with the column that only the issuance limit reads. -/
structure CodeRow extends PairingRow where
  createdAt : Timestamp
deriving DecidableEq

abbrev IssuedCodes := Table Uuid CodeRow

namespace IssuedCodes

/-- The rows without the column. -/
def bare (t : IssuedCodes) : PairingCodes :=
  t.collect fun row => some row.toPairingRow

/-- Both the id and the hash are unique; `none` is the violated constraint. -/
def insert (id : Uuid) (codeHash : CodeHash) (discordUserId discordGuildId : Snowflake)
    (expiresAt now : Timestamp) (t : IssuedCodes) : Option IssuedCodes :=
  if (t.lookup id).isSome || t.vals.any fun row => row.codeHash = codeHash then
    none
  else
    some (AList.insert id ⟨⟨codeHash, discordUserId, discordGuildId, expiresAt, none⟩, now⟩ t)

/-- `consume`: the guards live in the `WHERE`. -/
def consume (codeHash : CodeHash) (now : Timestamp) (t : IssuedCodes) : IssuedCodes :=
  t.mapVal fun _ row =>
    if row.codeHash = codeHash then { row with toPairingRow := row.toPairingRow.consume now }
    else row

/-- How many codes this Discord account asked for since `since`. -/
def recentRequestCount (discordUserId : Snowflake) (since : Int) (t : IssuedCodes) : Nat :=
  t.vals.countP fun row => row.discordUserId = discordUserId && decide (since < row.createdAt)

/-- Rows that can never be consumed again. -/
def isSpent (now : Timestamp) (row : CodeRow) : Bool :=
  decide (row.expiresAt < now) || row.consumedAt.isSome

def deleteExpired (now : Timestamp) (t : IssuedCodes) : IssuedCodes :=
  t.retain fun _ row => !isSpent now row

variable {t t' : IssuedCodes} {id : Uuid} {codeHash : CodeHash} {user guild : Snowflake}
  {expiresAt now : Timestamp} {u : Snowflake} {since : Int}

theorem recentRequestCount_anti {since' : Int} (h : since ≤ since') :
    t.recentRequestCount u since' ≤ t.recentRequestCount u since := by
  apply List.countP_mono_left
  intro row hrow hcounted
  simp only [Bool.and_eq_true, decide_eq_true_eq] at hcounted ⊢
  exact ⟨hcounted.1, by omega⟩

/-- A new row counts for its account, if it is recent. -/
theorem recentRequestCount_insert
    (h : t.insert id codeHash user guild expiresAt now = some t') :
    t'.recentRequestCount u since =
      t.recentRequestCount u since + if user = u ∧ since < now then 1 else 0 := by
  unfold insert at h
  split at h
  · cases h
  · next hfree =>
      simp only [Bool.or_eq_true, not_or, Bool.not_eq_true, Option.isSome_eq_false_iff,
        Option.isNone_iff_eq_none] at hfree
      have hnew : id ∉ t := AList.lookup_eq_none.mp hfree.1
      rw [← Option.some.inj h, recentRequestCount, AList.vals,
        AList.entries_insert_of_notMem hnew, List.map_cons, List.countP_cons]
      simp only [Bool.and_eq_true, decide_eq_true_eq]
      rfl

/-- Spending a code does not change who asked for it, nor when. -/
@[simp]
theorem recentRequestCount_consume :
    (t.consume codeHash now).recentRequestCount u since = t.recentRequestCount u since := by
  unfold recentRequestCount consume AList.vals AList.mapVal
  rw [List.map_map, List.countP_map, List.countP_map]
  congr 1
  funext e
  simp only [Function.comp_apply]
  split
  · unfold PairingRow.consume
    split
    · rfl
    · rfl
  · rfl

/-- Deleting what is not recent takes nothing from the count. -/
theorem recentRequestCount_deleteExpired
    (h : ∀ row ∈ t.vals, isSpent now row = true → (row.createdAt : Int) ≤ since) :
    (t.deleteExpired now).recentRequestCount u since = t.recentRequestCount u since := by
  unfold recentRequestCount deleteExpired AList.vals AList.retain
  rw [List.countP_map, List.countP_map, List.countP_filter]
  apply List.countP_congr
  intro e he
  have hkept := h e.2 (List.mem_map_of_mem he)
  simp only [Function.comp_apply, Bool.and_eq_true, decide_eq_true_eq]
  constructor
  · exact fun hcounted => hcounted.1
  · intro hcounted
    refine ⟨hcounted, ?_⟩
    by_contra hspent
    have hold := hkept (by simpa using hspent)
    omega

/-- Where hashes are unique, this is the `consume` of the table of codes. -/
theorem lookup_bare_consume
    (hunique : ∀ k k' row row', t.lookup k = some row → t.lookup k' = some row' →
      row.codeHash = row'.codeHash → k = k') (k : Uuid) :
    (t.consume codeHash now).bare.lookup k = (t.bare.consume codeHash now).1.lookup k := by
  have hbare : ∀ k, t.bare.lookup k = (t.lookup k).map CodeRow.toPairingRow := by
    intro k
    rw [bare, AList.lookup_collect, Option.map_eq_bind]
    rfl
  have hconsumed : (t.consume codeHash now).bare.lookup k =
      (t.bare.lookup k).map fun row =>
        if row.codeHash = codeHash then row.consume now else row := by
    rw [bare, AList.lookup_collect, consume, AList.lookup_mapVal, hbare]
    cases t.lookup k with
    | none => rfl
    | some row =>
        simp only [Option.map_some, Option.bind_some]
        split
        · rfl
        · rfl
  rw [hconsumed]
  unfold PairingCodes.consume
  cases hfind : t.bare.findByHash codeHash with
  | none =>
      cases hk : t.bare.lookup k with
      | none => rfl
      | some row =>
          rw [Option.map_some, if_neg (PairingCodes.codeHash_ne_of_findByHash hfind hk)]
  | some found =>
      obtain ⟨id, row⟩ := found
      obtain ⟨hid, hhash⟩ := PairingCodes.of_findByHash hfind
      have hspent : (t.bare.lookup k).map (fun row =>
          if row.codeHash = codeHash then row.consume now else row) =
            (t.bare.modify id (PairingRow.consume now)).lookup k := by
        rw [AList.lookup_modify]
        by_cases hk : k = id
        · rw [if_pos hk, hk, hid, Option.map_some, Option.map_some, if_pos hhash]
        · rw [if_neg hk]
          cases hother : t.bare.lookup k with
          | none => rfl
          | some other =>
              have hne : other.codeHash ≠ codeHash := by
                intro heq
                rw [hbare] at hid hother
                obtain ⟨full, hfull, rfl⟩ := Option.map_eq_some_iff.mp hid
                obtain ⟨full', hfull', rfl⟩ := Option.map_eq_some_iff.mp hother
                exact hk (hunique k id full' full hfull' hfull (heq.trans hhash.symm))
              rw [Option.map_some, if_neg hne]
      simp only
      split
      · exact hspent
      · next hunusable =>
          rw [hspent, AList.modify_eq_self]
          intro row' hrow'
          rw [hid] at hrow'
          rw [← Option.some.inj hrow', PairingRow.consume, if_neg hunusable]

end IssuedCodes

end Db
end Ldktela
