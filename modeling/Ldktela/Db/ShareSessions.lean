import Ldktela.Lib.Keyed
import Ldktela.Protocol

/-!
# `share_sessions`

`crates/db/src/repo/sessions.rs`: one row for each period in which somebody
transmitted.  Sessions are keyed by channel and publisher; a partial unique index
allows one open row for each pair, and `open` relies on it.
-/

namespace Ldktela
namespace Db

open Protocol

structure ShareSessionRow where
  discordChannelId : Snowflake
  publisherId : Uuid
  startedAt : Timestamp
  endedAt : Option Timestamp
  peakViewers : Nat
deriving DecidableEq

/-- The row is the open session of the publisher in the channel. -/
def ShareSessionRow.isOpenFor (row : ShareSessionRow) (discordChannelId : Snowflake)
    (publisherId : Uuid) : Bool :=
  decide (row.discordChannelId = discordChannelId) && decide (row.publisherId = publisherId) &&
    row.endedAt.isNone

abbrev ShareSessions := Table Uuid ShareSessionRow

namespace ShareSessions

/-- An id that no row has. -/
def freshId (t : ShareSessions) : Uuid :=
  t.keys.foldr (fun id next => max (id + 1) next) 0

/-- Open a session, or leave the one already open. -/
def openSession (now : Timestamp) (discordChannelId : Snowflake) (publisherId : Uuid)
    (t : ShareSessions) : ShareSessions :=
  if t.vals.any fun row => row.isOpenFor discordChannelId publisherId then
    t
  else
    t.insert t.freshId ⟨discordChannelId, publisherId, now, none, 0⟩

/-- Close the open session for this publisher. -/
def close (now : Timestamp) (discordChannelId : Snowflake) (publisherId : Uuid)
    (t : ShareSessions) : ShareSessions :=
  t.mapVal fun _ row =>
    if row.isOpenFor discordChannelId publisherId then { row with endedAt := some now } else row

/-- Raise the peak viewer count of the open sessions of a room. -/
def observeViewers (discordChannelId : Snowflake) (viewers : Nat) (t : ShareSessions) :
    ShareSessions :=
  t.mapVal fun _ row =>
    if row.discordChannelId = discordChannelId ∧ row.endedAt = none then
      { row with peakViewers := max row.peakViewers viewers }
    else
      row

/-- Close every session left open by a crash. -/
def closeAllOpen (now : Timestamp) (t : ShareSessions) : ShareSessions :=
  t.mapVal fun _ row => if row.endedAt = none then { row with endedAt := some now } else row

/-! ## Open sessions -/

/-- A session of the publisher is open in the channel. -/
def OpenFor (t : ShareSessions) (c : Snowflake) (u : Uuid) : Prop :=
  ∃ id row, t.lookup id = some row ∧ row.isOpenFor c u = true

/-- No publisher has two open sessions in a channel. -/
def OneOpen (t : ShareSessions) : Prop :=
  ∀ c u id id' row row', t.lookup id = some row → t.lookup id' = some row' →
    row.isOpenFor c u = true → row'.isOpenFor c u = true → id = id'

variable {t : ShareSessions} {c c' : Snowflake} {u u' : Uuid} {now : Timestamp}

theorem isOpenFor_iff {row : ShareSessionRow} :
    row.isOpenFor c u = true ↔
      row.discordChannelId = c ∧ row.publisherId = u ∧ row.endedAt = none := by
  simp [ShareSessionRow.isOpenFor, and_assoc]

theorem any_isOpenFor_iff : (t.vals.any fun row => row.isOpenFor c u) = true ↔ OpenFor t c u := by
  simp only [List.any_eq_true, AList.mem_vals_iff, OpenFor]
  constructor
  · rintro ⟨row, ⟨id, hid⟩, hopen⟩
    exact ⟨id, row, hid, hopen⟩
  · rintro ⟨id, row, hid, hopen⟩
    exact ⟨row, ⟨id, hid⟩, hopen⟩

instance (t : ShareSessions) (c : Snowflake) (u : Uuid) : Decidable (OpenFor t c u) :=
  decidable_of_iff _ any_isOpenFor_iff

theorem lt_freshId {id : Uuid} (h : id ∈ t) : id < t.freshId := by
  have hlt : ∀ (ids : List Nat) (id : Nat), id ∈ ids →
      id < ids.foldr (fun id next => max (id + 1) next) 0 := by
    intro ids id hid
    induction ids with
    | nil => cases hid
    | cons head ids ih =>
        rw [List.foldr_cons]
        rcases List.mem_cons.mp hid with rfl | htail
        · omega
        · have := ih htail
          omega
  exact hlt t.keys id (AList.mem_keys.mp h)

theorem freshId_not_mem (t : ShareSessions) : t.freshId ∉ t :=
  fun hmem => absurd (lt_freshId hmem) (Nat.lt_irrefl _)

/-- What `open` adds to the table, if it adds anything. -/
theorem lookup_open (id : Uuid) :
    (openSession now c u t).lookup id =
      if ¬ OpenFor t c u ∧ id = t.freshId then some ⟨c, u, now, none, 0⟩ else t.lookup id := by
  unfold openSession
  split
  · next hany =>
      rw [if_neg]
      exact fun h => h.1 (any_isOpenFor_iff.mp hany)
  · next hany =>
      rw [AList.lookup_insert_ite]
      refine if_congr (and_iff_right fun h => ?_).symm rfl rfl
      exact hany (any_isOpenFor_iff.mpr h)

theorem openFor_open :
    OpenFor (openSession now c u t) c' u' ↔ (c' = c ∧ u' = u) ∨ OpenFor t c' u' := by
  constructor
  · rintro ⟨id, row, hrow, hopen⟩
    rw [lookup_open] at hrow
    split at hrow
    · obtain rfl := Option.some.inj hrow
      obtain ⟨rfl, rfl, -⟩ := isOpenFor_iff.mp hopen
      exact .inl ⟨rfl, rfl⟩
    · exact .inr ⟨id, row, hrow, hopen⟩
  · have hkept : ∀ {c' u'}, OpenFor t c' u' → OpenFor (openSession now c u t) c' u' := by
      rintro c' u' ⟨id, row, hrow, hopen⟩
      refine ⟨id, row, ?_, hopen⟩
      rw [lookup_open, if_neg, hrow]
      rintro ⟨-, rfl⟩
      exact freshId_not_mem t (AList.lookup_isSome.mp (by simp [hrow]))
    rintro (⟨rfl, rfl⟩ | h)
    · -- `ON CONFLICT` leaves an open session as it is
      by_cases halready : OpenFor t c' u'
      · exact hkept halready
      · refine ⟨t.freshId, _, by rw [lookup_open, if_pos ⟨halready, rfl⟩], ?_⟩
        exact isOpenFor_iff.mpr ⟨rfl, rfl, rfl⟩
    · exact hkept h

/-- A rewrite of the rows that changes neither their key nor whether they are
open. -/
private theorem openFor_mapVal_iff {f : Uuid → ShareSessionRow → ShareSessionRow}
    {p : Prop} (hf : ∀ id row, (f id row).isOpenFor c' u' = true ↔
      row.isOpenFor c' u' = true ∧ p) :
    OpenFor (t.mapVal f) c' u' ↔ OpenFor t c' u' ∧ p := by
  constructor
  · rintro ⟨id, row, hrow, hopen⟩
    rw [AList.lookup_mapVal] at hrow
    obtain ⟨old, hold, rfl⟩ := Option.map_eq_some_iff.mp hrow
    obtain ⟨hopen', hp⟩ := (hf id old).mp hopen
    exact ⟨⟨id, old, hold, hopen'⟩, hp⟩
  · rintro ⟨⟨id, row, hrow, hopen⟩, hp⟩
    refine ⟨id, f id row, ?_, (hf id row).mpr ⟨hopen, hp⟩⟩
    rw [AList.lookup_mapVal, hrow]
    rfl

theorem isOpenFor_closed (row : ShareSessionRow) :
    (if row.isOpenFor c u then { row with endedAt := some now } else row).isOpenFor c' u' = true ↔
      row.isOpenFor c' u' = true ∧ ¬ (c' = c ∧ u' = u) := by
  split
  · next hopen =>
      obtain ⟨rfl, rfl, -⟩ := isOpenFor_iff.mp hopen
      simp only [isOpenFor_iff]
      constructor
      · rintro ⟨-, -, hended⟩
        cases hended
      · rintro ⟨⟨rfl, rfl, -⟩, hne⟩
        exact absurd ⟨rfl, rfl⟩ hne
  · next hclosed =>
      refine (and_iff_left_of_imp fun hopen => ?_).symm
      rintro ⟨rfl, rfl⟩
      exact hclosed hopen

theorem openFor_close :
    OpenFor (close now c u t) c' u' ↔ OpenFor t c' u' ∧ ¬ (c' = c ∧ u' = u) :=
  openFor_mapVal_iff fun _ row => isOpenFor_closed row

theorem isOpenFor_observed (viewers : Nat) (row : ShareSessionRow) :
    (if row.discordChannelId = c ∧ row.endedAt = none then
        { row with peakViewers := max row.peakViewers viewers }
      else row).isOpenFor c' u' = row.isOpenFor c' u' := by
  split
  · rfl
  · rfl

theorem openFor_observeViewers (viewers : Nat) :
    OpenFor (observeViewers c viewers t) c' u' ↔ OpenFor t c' u' := by
  refine (openFor_mapVal_iff (p := True) fun _ row => ?_).trans (and_iff_left trivial)
  rw [isOpenFor_observed]
  exact (and_iff_left trivial).symm

/-! ## One open row for each pair -/

/-- Rewriting rows opens none. -/
private theorem oneOpen_mapVal {f : Uuid → ShareSessionRow → ShareSessionRow}
    (hf : ∀ id row c u, (f id row).isOpenFor c u = true → row.isOpenFor c u = true)
    (h : OneOpen t) : OneOpen (t.mapVal f) := by
  intro c u id id' row row' hrow hrow' hopen hopen'
  rw [AList.lookup_mapVal] at hrow hrow'
  obtain ⟨old, hold, rfl⟩ := Option.map_eq_some_iff.mp hrow
  obtain ⟨old', hold', rfl⟩ := Option.map_eq_some_iff.mp hrow'
  exact h c u id id' old old' hold hold' (hf _ _ _ _ hopen) (hf _ _ _ _ hopen')

theorem oneOpen_close (h : OneOpen t) : OneOpen (close now c u t) :=
  oneOpen_mapVal (fun _ row _ _ hopen => ((isOpenFor_closed row).mp hopen).1) h

theorem oneOpen_observeViewers (viewers : Nat) (h : OneOpen t) :
    OneOpen (observeViewers c viewers t) :=
  oneOpen_mapVal (fun _ row _ _ hopen => by rwa [isOpenFor_observed] at hopen) h

theorem oneOpen_open (h : OneOpen t) : OneOpen (openSession now c u t) := by
  intro c' u' id id' row row' hrow hrow' hopen hopen'
  rw [lookup_open] at hrow hrow'
  split at hrow
  · next hnew =>
      obtain rfl := Option.some.inj hrow
      obtain ⟨rfl, rfl, -⟩ := isOpenFor_iff.mp hopen
      split at hrow'
      · next hnew' => rw [hnew.2, hnew'.2]
      · exact absurd ⟨id', row', hrow', hopen'⟩ hnew.1
  · split at hrow'
    · next hnew' =>
        obtain rfl := Option.some.inj hrow'
        obtain ⟨rfl, rfl, -⟩ := isOpenFor_iff.mp hopen'
        exact absurd ⟨id, row, hrow, hopen⟩ hnew'.1
    · exact h c' u' id id' row row' hrow hrow' hopen hopen'

/-! ## The other rooms -/

/-- The two tables have the same rows outside the channel `c`. -/
def SameElsewhere (c : Snowflake) (t t' : ShareSessions) : Prop :=
  ∀ id row, row.discordChannelId ≠ c → (t'.lookup id = some row ↔ t.lookup id = some row)

theorem SameElsewhere.refl (c : Snowflake) (t : ShareSessions) : SameElsewhere c t t :=
  fun _ _ _ => Iff.rfl

theorem SameElsewhere.trans {t' t'' : ShareSessions} (h : SameElsewhere c t t')
    (h' : SameElsewhere c t' t'') : SameElsewhere c t t'' :=
  fun id row hne => (h' id row hne).trans (h id row hne)

/-- A rewrite of the rows of one channel that moves none of them. -/
private theorem sameElsewhere_mapVal {f : Uuid → ShareSessionRow → ShareSessionRow}
    (hchannel : ∀ id row, (f id row).discordChannelId = row.discordChannelId)
    (hout : ∀ id row, row.discordChannelId ≠ c → f id row = row) :
    SameElsewhere c t (t.mapVal f) := by
  intro id row hne
  rw [AList.lookup_mapVal]
  constructor
  · intro h
    obtain ⟨old, hold, rfl⟩ := Option.map_eq_some_iff.mp h
    rw [hchannel] at hne
    rw [hout id old hne, hold]
  · intro h
    rw [h, Option.map_some, hout id row hne]

theorem sameElsewhere_close : SameElsewhere c t (close now c u t) := by
  refine sameElsewhere_mapVal (fun _ row => ?_) fun _ row hne => ?_
  · split
    · rfl
    · rfl
  · rw [if_neg]
    exact fun hopen => hne (isOpenFor_iff.mp hopen).1

theorem sameElsewhere_observeViewers (viewers : Nat) :
    SameElsewhere c t (observeViewers c viewers t) := by
  refine sameElsewhere_mapVal (fun _ row => ?_) fun _ row hne => ?_
  · split
    · rfl
    · rfl
  · rw [if_neg]
    exact fun h => hne h.1

theorem sameElsewhere_open : SameElsewhere c t (openSession now c u t) := by
  intro id row hne
  rw [lookup_open]
  split
  · next hnew =>
      constructor
      · intro h
        obtain rfl := Option.some.inj h
        exact absurd rfl hne
      · intro h
        rw [hnew.2] at h
        exact absurd (AList.lookup_isSome.mp (by simp [h])) (freshId_not_mem t)
  · exact Iff.rfl

end ShareSessions

end Db
end Ldktela
