import Ldktela.Db.Presence
import Ldktela.Lib.Runs

/-!
# The publishing flag

`room_presence.publishing` repeats what the two start columns say, and every statement
of `crates/db/src/repo/presence.rs` writes it by hand.  `publishing_iff_since` takes the
six statements in any order, over any people and channels, and says that the flag and
the answers of the statements tell what the columns tell.
-/

namespace Ldktela
namespace Db

open Protocol Runs

theorem other_ne (source : PublicationSource) : other source ≠ source := by
  cases source with
  | screen => decide
  | camera => decide

/-- The flag is set exactly when one of the sources is on the air. -/
def PresenceRow.FlagTells (row : PresenceRow) : Prop :=
  row.publishing = true ↔ row.screenSince.isSome = true ∨ row.cameraSince.isSome = true

namespace PresenceRow

theorem flagTells_start (now : Timestamp) (source : PublicationSource) (row : PresenceRow) :
    (row.start now source).FlagTells := by
  cases source with
  | screen => exact iff_of_true rfl (.inl rfl)
  | camera => exact iff_of_true rfl (.inr rfl)

theorem flagTells_stop (source : PublicationSource) (row : PresenceRow) :
    (row.stop source).FlagTells := by
  cases source with
  | screen =>
      show row.cameraSince.isSome = true ↔ false = true ∨ row.cameraSince.isSome = true
      simp
  | camera =>
      show row.screenSince.isSome = true ↔ row.screenSince.isSome = true ∨ false = true
      simp

theorem flagTells_clear (row : PresenceRow) : row.clear.FlagTells := by
  simp [FlagTells, clear]

theorem FlagTells.publishing_eq {row : PresenceRow} (h : row.FlagTells) :
    row.publishing = (row.screenSince.isSome || row.cameraSince.isSome) := by
  rw [Bool.eq_iff_iff, Bool.or_eq_true]
  exact h

end PresenceRow

/-- The sources that were on the air, as the answer of `clear_publications` lists them. -/
theorem ClearedPublications.mem_sources {c : Snowflake} {row : PresenceRow}
    {source : PublicationSource} :
    source ∈ (ClearedPublications.mk c row.screenSince.isSome row.cameraSince.isSome).sources ↔
      (row.since source).isSome = true := by
  unfold sources
  cases source with
  | screen => cases hscreen : row.screenSince with
      | none => simp [PresenceRow.since, hscreen]
      | some since => simp [PresenceRow.since, hscreen]
  | camera => cases hcamera : row.cameraSince with
      | none => simp [PresenceRow.since, hcamera]
      | some since => simp [PresenceRow.since, hcamera]

namespace Presence

/-- A statement that writes the table; `now` is `NOW()` of its transaction. -/
inductive Statement where
  | join (now : Timestamp) (userId : Uuid) (discordChannelId : Snowflake)
  | leave (userId : Uuid)
  | startPublication (now : Timestamp) (userId : Uuid) (source : PublicationSource)
  | stopPublication (userId : Uuid) (source : PublicationSource)
  | clearPublications (userId : Uuid)
  | clearChannel (discordChannelId : Snowflake)

def execute (t : Presence) : Statement → Presence
  | .join now userId discordChannelId => join now userId discordChannelId t
  | .leave userId => (leave userId t).1
  | .startPublication now userId source => (startPublication now userId source t).1
  | .stopPublication userId source => (stopPublication userId source t).1
  | .clearPublications userId => (clearPublications userId t).1
  | .clearChannel discordChannelId => clearChannel discordChannelId t

/-- No row of the table lies. -/
def FlagsTell (t : Presence) : Prop :=
  ∀ userId row, t.lookup userId = some row → row.FlagTells

variable {t t' : Presence} {u : Uuid}

/-- A statement that rewrites the row of one person with `f`. -/
theorem FlagsTell.rewrite (h : t.FlagsTell) {f : PresenceRow → PresenceRow}
    (hlookup : ∀ v, t'.lookup v = if v = u then (t.lookup v).map f else t.lookup v)
    (hf : ∀ row, (f row).FlagTells) : t'.FlagsTell := by
  intro v row hrow
  rw [hlookup] at hrow
  split at hrow
  · obtain ⟨before, -, rfl⟩ := Option.map_eq_some_iff.mp hrow
    exact hf before
  · exact h v row hrow

theorem FlagsTell.execute (h : t.FlagsTell) (statement : Statement) :
    (t.execute statement).FlagsTell := by
  cases statement with
  | join now userId discordChannelId =>
      -- somebody who moves has stopped everything
      intro v row hrow
      rw [Presence.execute, lookup_join] at hrow
      split at hrow
      · obtain rfl := Option.some.inj hrow
        simp [PresenceRow.FlagTells]
      · exact h v row hrow
  | leave userId =>
      intro v row hrow
      rw [Presence.execute, lookup_leave] at hrow
      split at hrow
      · cases hrow
      · exact h v row hrow
  | startPublication now userId source =>
      exact h.rewrite (fun _ => lookup_startPublication now source)
        (PresenceRow.flagTells_start now source)
  | stopPublication userId source =>
      exact h.rewrite (fun _ => lookup_stopPublication source)
        (PresenceRow.flagTells_stop source)
  | clearPublications userId =>
      exact h.rewrite (fun _ => lookup_clearPublications) PresenceRow.flagTells_clear
  | clearChannel discordChannelId =>
      -- rows only go away
      intro v row hrow
      rw [Presence.execute, lookup_clearChannel] at hrow
      exact h v row (Option.filter_eq_some_iff.mp hrow).1

/-- In the table that any statements leave behind the flag is set exactly when a source
is on the air, and the next statement answers accordingly: a source already on the air
keeps its time, the end of one does not touch the other, and the end of all of them names
those that were there. -/
theorem publishing_iff_since (statements : List Statement) :
    let t : Presence := run execute ∅ statements
    (∀ userId row, t.lookup userId = some row →
      (row.publishing = true ↔ row.screenSince.isSome = true ∨ row.cameraSince.isSome = true)) ∧
    (∀ now userId source row, t.lookup userId = some row →
      ∃ row', (startPublication now userId source t).1.lookup userId = some row' ∧
        (startPublication now userId source t).2 =
          some ⟨row.discordChannelId, (row.since source).getD now⟩ ∧
        row'.since source = some ((row.since source).getD now) ∧
        row'.since (other source) = row.since (other source)) ∧
    (∀ userId source row, t.lookup userId = some row →
      ∃ row' stopped, (stopPublication userId source t).1.lookup userId = some row' ∧
        (stopPublication userId source t).2 = some stopped ∧
        row'.since source = none ∧
        row'.since (other source) = row.since (other source) ∧
        (stopped.stillPublishing = true ↔ (row.since (other source)).isSome = true)) ∧
    (∀ userId row, t.lookup userId = some row →
      ∃ cleared, (clearPublications userId t).2 = some cleared ∧
        ∀ source, source ∈ cleared.sources ↔ (row.since source).isSome = true) := by
  intro t
  refine ⟨?_, ?_, ?_, ?_⟩
  · have hflags : t.FlagsTell :=
      run_invariant (fun _ statement h => h.execute statement)
        (fun _ _ hrow => by cases hrow) statements
    exact hflags
  · intro now userId source row hrow
    refine ⟨row.start now source, ?_, ?_, ?_, ?_⟩
    · rw [lookup_startPublication, if_pos rfl, hrow, Option.map_some]
    · rw [startPublication, hrow, Option.map_some]
    · rw [PresenceRow.since_start, if_pos rfl]
    · rw [PresenceRow.since_start, if_neg (other_ne source)]
  · intro userId source row hrow
    refine ⟨row.stop source, ⟨row.discordChannelId, (row.since (other source)).isSome⟩,
      ?_, ?_, ?_, ?_, Iff.rfl⟩
    · rw [lookup_stopPublication, if_pos rfl, hrow, Option.map_some]
    · rw [stopPublication, hrow, Option.map_some]
    · rw [PresenceRow.since_stop, if_pos rfl]
    · rw [PresenceRow.since_stop, if_neg (other_ne source)]
  · intro userId row hrow
    refine ⟨⟨row.discordChannelId, row.screenSince.isSome, row.cameraSince.isSome⟩, ?_, ?_⟩
    · rw [clearPublications, hrow, Option.map_some]
    · exact fun source => ClearedPublications.mem_sources

end Presence

end Db
end Ldktela
