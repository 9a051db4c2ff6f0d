import Mathlib.Data.List.Induction
import Ldktela.Discord.Replica

/-!
# The grace window of an outage

`set_connected` and `staleness` of `crates/api/src/discord/replica.rs`, along a
timed sequence of reports.  The bot reports every stage of its shard, so an
outage is a long stretch of reports that say "not connected".

* `reported` is the replica after the reports;
* `StoppedAt` is the instant at which the replica stopped being connected, the
  first disconnected report after the last connected one;
* `Vouches` says when the mirror may still be trusted: while connected, and for
  the grace window after that instant.

The code restarts the window at every disconnected report, and opens one for a
replica that has never been connected.  `fresh_iff_vouches` says for which
sequences this makes no difference.
-/

namespace Ldktela
namespace Discord
namespace Outage

/-- One call of `set_connected`, with the instant it is made at. -/
structure Report where
  instant : Nat
  connected : Bool
deriving DecidableEq

/-- The replica after a sequence of calls, from the start of the process. -/
def reported (grace : Nat) (reports : List Report) : Replica :=
  reports.foldl (fun r report => Replica.setConnected report.instant report.connected r)
    (Replica.new grace)

/-- The last report says connected. -/
def LastConnected (reports : List Report) : Prop :=
  ∃ last, reports.getLast? = some last ∧ last.connected = true

/-- The replica was connected, and stopped being so at `since`. -/
def StoppedAt (reports : List Report) (since : Nat) : Prop :=
  ∃ before up drop after, reports = before ++ up :: drop :: after ∧
    up.connected = true ∧ drop.connected = false ∧
    (∀ report ∈ after, report.connected = false) ∧ drop.instant = since

/-- When the mirror may be trusted for a new admission. -/
def Vouches (grace : Nat) (reports : List Report) (now : Nat) : Prop :=
  LastConnected reports ∨ ∃ since, StoppedAt reports since ∧ now - since ≤ grace

/-- No disconnected report has moved the start of the window: there is none since
the last connected one, or the last of them comes at the instant of the first, and
after a connection. -/
def WindowUnmoved (reports : List Report) : Prop :=
  ∀ last, reports.getLast? = some last →
    last.connected = true ∨ StoppedAt reports last.instant

variable {grace now since : Nat} {reports : List Report} {report : Report}

/-! ## One more report -/

theorem lastConnected_snoc : LastConnected (reports ++ [report]) ↔ report.connected = true := by
  simp [LastConnected]

theorem stoppedAt_nil : ¬ StoppedAt [] since := by
  rintro ⟨before, up, drop, after, heq, -⟩
  simp at heq

/-- A disconnected report starts the window after a connected one, and only then. -/
theorem stoppedAt_snoc :
    StoppedAt (reports ++ [report]) since ↔
      report.connected = false ∧
        (StoppedAt reports since ∨ LastConnected reports ∧ report.instant = since) := by
  constructor
  · rintro ⟨before, up, drop, after, heq, hup, hdrop, hafter, hsince⟩
    cases after using List.reverseRecOn with
    | nil =>
        -- the report at hand is the drop
        have hsplit : reports ++ [report] = (before ++ [up]) ++ [drop] := by
          rw [heq, List.append_assoc]
          rfl
        obtain ⟨rfl, hlast⟩ := List.append_inj' hsplit rfl
        obtain rfl : report = drop := by simpa using hlast
        exact ⟨hdrop, .inr ⟨lastConnected_snoc.mpr hup, hsince⟩⟩
    | append_singleton after last =>
        have hsplit : reports ++ [report] = (before ++ up :: drop :: after) ++ [last] := by
          rw [heq, List.append_assoc]
          rfl
        obtain ⟨rfl, hlast⟩ := List.append_inj' hsplit rfl
        obtain rfl : report = last := by simpa using hlast
        have hreport : report.connected = false := hafter report (by simp)
        refine ⟨hreport, .inl ⟨before, up, drop, after, rfl, hup, hdrop, ?_, hsince⟩⟩
        exact fun r hr => hafter r (List.mem_append_left _ hr)
  · rintro ⟨hreport, ⟨before, up, drop, after, rfl, hup, hdrop, hafter, hsince⟩ | ⟨hlast, hsince⟩⟩
    · refine ⟨before, up, drop, after ++ [report], by simp, hup, hdrop, ?_, hsince⟩
      intro r hr
      rcases List.mem_append.mp hr with hr | hr
      · exact hafter r hr
      · rwa [List.mem_singleton.mp hr]
    · obtain ⟨up, hup, hconnected⟩ := hlast
      obtain ⟨before, rfl⟩ := List.getLast?_eq_some_iff.mp hup
      exact ⟨before, up, report, [], by simp, hconnected, hreport, by simp, hsince⟩

/-- The drop is one of the reports. -/
theorem StoppedAt.mem (h : StoppedAt reports since) :
    ∃ report ∈ reports, report.instant = since := by
  obtain ⟨before, up, drop, after, rfl, -, -, -, hsince⟩ := h
  exact ⟨drop, by simp, hsince⟩

/-! ## What the code keeps -/

theorem staleness_nil : (reported grace []).staleness now = .stale := rfl

theorem reported_snoc :
    reported grace (reports ++ [report]) =
      Replica.setConnected report.instant report.connected (reported grace reports) := by
  simp [reported]

theorem reported_grace : (reported grace reports).grace = grace := by
  induction reports using List.reverseRecOn with
  | nil => rfl
  | append_singleton reports report ih =>
      rw [reported_snoc]
      exact ih

/-- The code looks at the last report only. -/
theorem fresh_snoc :
    (reported grace (reports ++ [report])).staleness now = .fresh ↔
      report.connected = true ∨ now - report.instant ≤ grace := by
  rw [reported_snoc, Replica.staleness]
  cases hreport : report.connected with
  | true => simp [Replica.setConnected]
  | false => simp [Replica.setConnected, reported_grace]

/-! ## The window -/

/-- The code errs on the open side only: what may be trusted is fresh. -/
theorem fresh_of_vouches (hclock : reports.Pairwise fun a b => a.instant ≤ b.instant)
    (hvouches : Vouches grace reports now) : (reported grace reports).staleness now = .fresh := by
  cases reports using List.reverseRecOn with
  | nil =>
      rcases hvouches with ⟨last, hlast, -⟩ | ⟨since, hstopped, -⟩
      · simp at hlast
      · exact absurd hstopped stoppedAt_nil
  | append_singleton reports report =>
      rw [fresh_snoc]
      rcases hvouches with hlast | ⟨since, hstopped, hwindow⟩
      · exact .inl (lastConnected_snoc.mp hlast)
      · obtain ⟨r, hr, rfl⟩ := hstopped.mem
        have hle : r.instant ≤ report.instant := by
          rcases List.mem_append.mp hr with hr | hr
          · exact (List.pairwise_append.mp hclock).2.2 r hr report (by simp)
          · rw [List.mem_singleton.mp hr]
        exact .inr (by omega)

/-- The replica fails closed on time, at every instant from the last report on,
exactly when no report has moved the window. -/
theorem fresh_iff_vouches (grace : Nat) (reports : List Report)
    (hclock : reports.Pairwise fun a b => a.instant ≤ b.instant) :
    (∀ now, (∀ report ∈ reports, report.instant ≤ now) →
      ((reported grace reports).staleness now = .fresh ↔ Vouches grace reports now)) ↔
      WindowUnmoved reports := by
  cases reports using List.reverseRecOn with
  | nil =>
      have hnever : ∀ now, ¬ Vouches grace [] now := by
        rintro now (⟨last, hlast, -⟩ | ⟨since, hstopped, -⟩)
        · simp at hlast
        · exact stoppedAt_nil hstopped
      simp [WindowUnmoved, staleness_nil, hnever]
  | append_singleton reports report =>
      have hwindow : WindowUnmoved (reports ++ [report]) ↔
          report.connected = true ∨ StoppedAt (reports ++ [report]) report.instant := by
        simp [WindowUnmoved]
      have hlatest : ∀ r ∈ reports ++ [report], r.instant ≤ report.instant := by
        intro r hr
        rcases List.mem_append.mp hr with hr | hr
        · exact (List.pairwise_append.mp hclock).2.2 r hr report (by simp)
        · rw [List.mem_singleton.mp hr]
      rw [hwindow]
      constructor
      · -- the last instant the code still answers fresh decides
        intro hexact
        by_cases hconnected : report.connected = true
        · exact .inl hconnected
        · right
          have hlate : ∀ r ∈ reports ++ [report], r.instant ≤ report.instant + grace :=
            fun r hr => Nat.le_trans (hlatest r hr) (Nat.le_add_right _ _)
          have hfresh : (reported grace (reports ++ [report])).staleness (report.instant + grace) =
              .fresh := fresh_snoc.mpr (.inr (by omega))
          rcases (hexact _ hlate).mp hfresh with hlast | ⟨s, hstopped, hs⟩
          · exact absurd (lastConnected_snoc.mp hlast) hconnected
          · obtain ⟨r, hr, rfl⟩ := hstopped.mem
            have hle := hlatest r hr
            have heq : r.instant = report.instant := by omega
            rwa [heq] at hstopped
      · intro hunmoved now hnow
        rw [fresh_snoc]
        constructor
        · intro hfresh
          rcases hunmoved with hconnected | hstopped
          · exact .inl (lastConnected_snoc.mpr hconnected)
          · rcases hfresh with hconnected | hle
            · exact .inl (lastConnected_snoc.mpr hconnected)
            · exact .inr ⟨report.instant, hstopped, hle⟩
        · intro hvouches
          exact fresh_snoc.mp (fresh_of_vouches hclock hvouches)

/-- An outage of one report keeps its window. -/
theorem single_drop_fails_on_time :
    WindowUnmoved [⟨0, true⟩, ⟨10, false⟩] ∧
      ∀ now, (∀ report ∈ [⟨0, true⟩, ⟨10, false⟩], Report.instant report ≤ now) →
        ((reported 60 [⟨0, true⟩, ⟨10, false⟩]).staleness now = .fresh ↔
          Vouches 60 [⟨0, true⟩, ⟨10, false⟩] now) := by
  have hunmoved : WindowUnmoved [⟨0, true⟩, ⟨10, false⟩] := by
    intro last hlast
    obtain rfl : (⟨10, false⟩ : Report) = last := by simpa using hlast
    exact .inr ⟨[], ⟨0, true⟩, ⟨10, false⟩, [], rfl, rfl, rfl, by simp, rfl⟩
  exact ⟨hunmoved,
    (fresh_iff_vouches 60 [⟨0, true⟩, ⟨10, false⟩] (by decide)).mpr hunmoved⟩

/-- The gateway drops at 10 and a later stage of the same outage is reported at 60:
at 100 the mirror has been out of date for 90, and is still called fresh with a
window of 60. -/
theorem repeated_drop_extends_window :
    ¬ ∀ (grace : Nat) (reports : List Report),
      reports.Pairwise (fun a b => a.instant ≤ b.instant) →
        ∀ now, (∀ report ∈ reports, report.instant ≤ now) →
          ((reported grace reports).staleness now = .fresh ↔ Vouches grace reports now) := by
  intro hclaim
  have hfresh : (reported 60 [⟨0, true⟩, ⟨10, false⟩, ⟨60, false⟩]).staleness 100 = .fresh := by
    decide
  rcases (hclaim 60 [⟨0, true⟩, ⟨10, false⟩, ⟨60, false⟩] (by decide) 100 (by decide)).mp hfresh
    with ⟨last, hlast, hconnected⟩ | ⟨since, hstopped, hwindow⟩
  · obtain rfl : (⟨60, false⟩ : Report) = last := by simpa using hlast
    cases hconnected
  · -- the replica stopped at 10, not at 60
    have hsnoc : [(⟨0, true⟩ : Report), ⟨10, false⟩, ⟨60, false⟩] =
        [⟨0, true⟩, ⟨10, false⟩] ++ [⟨60, false⟩] := rfl
    have hsnoc' : [(⟨0, true⟩ : Report), ⟨10, false⟩] = [⟨0, true⟩] ++ [⟨10, false⟩] := rfl
    have hsnoc'' : [(⟨0, true⟩ : Report)] = [] ++ [⟨0, true⟩] := rfl
    rw [hsnoc, stoppedAt_snoc, hsnoc', stoppedAt_snoc, lastConnected_snoc, hsnoc'',
      stoppedAt_snoc, lastConnected_snoc] at hstopped
    rcases hstopped.2 with ⟨-, ⟨hup, -⟩ | ⟨-, hsince⟩⟩ | ⟨hup, -⟩
    · cases hup
    · dsimp only at hsince
      omega
    · cases hup

end Outage
end Discord
end Ldktela
