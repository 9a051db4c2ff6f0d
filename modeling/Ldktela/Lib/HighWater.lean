import Mathlib.Order.Bounds.Basic
import Ldktela.Lib.Runs

/-!
# High-water marks

A system shows a value at some of its states and keeps a mark, which is to be the largest value
that it has shown so far.  When every step leaves the mark alone or raises it to the value of the
moment, the mark is the largest value along a run exactly if no state of the run shows more than
its mark.
-/

namespace HighWater

open Runs

variable {σ α β : Type*}

/-- The values shown along a run, its two ends included. -/
def Seen (step : σ → α → σ) (shown : σ → Option β) (s : σ) (as : List α) : Set β :=
  {b | ∃ earlier, earlier <+: as ∧ shown (run step s earlier) = some b}

/-- The value of the moment is not over the mark. -/
def Covered [LE β] (shown mark : σ → Option β) (s : σ) : Prop :=
  ∀ m b, mark s = some m → shown s = some b → b ≤ m

/-- What a step may do to the mark: it stays, or it becomes the value of the moment, and it never
falls. -/
structure Raises [LE β] (shown mark : σ → Option β) (s s' : σ) : Prop where
  kept : ∀ m, mark s = some m → ∃ m', mark s' = some m' ∧ m ≤ m'
  moved : ∀ m', mark s' = some m' → mark s = some m' ∨ shown s' = some m'

section Rule

variable {step : σ → α → σ} {shown mark : σ → Option β} {I : σ → Prop} {s : σ} {as : List α}
  {a : α}

theorem mem_seen_snoc {b : β} :
    b ∈ Seen step shown s (as ++ [a]) ↔
      b ∈ Seen step shown s as ∨ shown (run step s (as ++ [a])) = some b := by
  constructor
  · rintro ⟨earlier, hearlier, hshown⟩
    rcases List.prefix_concat_iff.mp hearlier with rfl | hearlier
    · exact .inr hshown
    · exact .inl ⟨earlier, hearlier, hshown⟩
  · rintro (⟨earlier, hearlier, hshown⟩ | hshown)
    · exact ⟨earlier, hearlier.trans (List.prefix_append as [a]), hshown⟩
    · exact ⟨as ++ [a], List.prefix_rfl, hshown⟩

theorem mem_seen_nil {b : β} : b ∈ Seen step shown s ([] : List α) ↔ shown s = some b := by
  constructor
  · rintro ⟨earlier, hearlier, hshown⟩
    rw [List.prefix_nil.mp hearlier] at hshown
    exact hshown
  · exact fun hshown => ⟨[], List.prefix_rfl, hshown⟩

variable [Preorder β]

theorem Raises.of_mark_eq {s s' : σ} (hmark : mark s' = mark s) : Raises shown mark s s' where
  kept m hm := ⟨m, hmark.trans hm, le_refl m⟩
  moved _ hm' := .inl (hmark ▸ hm')

/-- The mark is a value that was shown. -/
theorem mark_mem_seen (hI : ∀ s a, I s → I (step s a))
    (hraises : ∀ s a, I s → Raises shown mark s (step s a)) (hs : I s)
    (hstart : ∀ m, mark s = some m → shown s = some m) (as : List α) :
    ∀ m, mark (run step s as) = some m → m ∈ Seen step shown s as := by
  induction as using List.reverseRecOn with
  | nil => exact fun m hm => mem_seen_nil.mpr (hstart m hm)
  | append_singleton as a ih =>
      intro m hm
      refine mem_seen_snoc.mpr ?_
      rw [run_append] at hm ⊢
      have hrun : I (run step s as) := run_invariant (I := I) hI hs as
      rcases (hraises _ a hrun).moved m hm with hold | hshown
      · exact .inl (ih m hold)
      · exact .inr hshown

/-- A mark that was never passed is over everything that was shown. -/
theorem seen_le_mark (hI : ∀ s a, I s → I (step s a))
    (hraises : ∀ s a, I s → Raises shown mark s (step s a)) (hs : I s)
    (hmarked : ∀ s b, shown s = some b → ∃ m, mark s = some m) (as : List α)
    (hcovered : ∀ handled, handled <+: as → Covered shown mark (run step s handled)) :
    ∀ b ∈ Seen step shown s as, ∃ m, mark (run step s as) = some m ∧ b ≤ m := by
  have hlast : ∀ as, Covered shown mark (run step s as) → ∀ b,
      shown (run step s as) = some b → ∃ m, mark (run step s as) = some m ∧ b ≤ m := by
    intro as hcovered b hshown
    obtain ⟨m, hm⟩ := hmarked _ b hshown
    exact ⟨m, hm, hcovered m b hm hshown⟩
  induction as using List.reverseRecOn with
  | nil => exact fun b hb => hlast [] (hcovered [] List.prefix_rfl) b (mem_seen_nil.mp hb)
  | append_singleton as a ih =>
      intro b hb
      rcases mem_seen_snoc.mp hb with hearlier | hshown
      · obtain ⟨m, hm, hle⟩ := ih
          (fun handled hhandled => hcovered handled (hhandled.trans (List.prefix_append as [a])))
          b hearlier
        have hrun : I (run step s as) := run_invariant (I := I) hI hs as
        obtain ⟨m', hm', hraised⟩ := (hraises _ a hrun).kept m hm
        rw [run_append]
        exact ⟨m', hm', hle.trans hraised⟩
      · exact hlast (as ++ [a]) (hcovered _ List.prefix_rfl) b hshown

/-- The rule of high-water marks. -/
theorem isGreatest_iff_throughout (hI : ∀ s a, I s → I (step s a))
    (hraises : ∀ s a, I s → Raises shown mark s (step s a)) (hs : I s)
    (hmarked : ∀ s b, shown s = some b → ∃ m, mark s = some m)
    (hstart : ∀ m, mark s = some m → shown s = some m) :
    (∀ handled, handled <+: as → ∀ m, mark (run step s handled) = some m →
        IsGreatest (Seen step shown s handled) m) ↔
      Throughout step (Covered shown mark) s as := by
  rw [throughout_iff_initial]
  constructor
  · intro hgreatest handled hhandled m b hm hshown
    exact (hgreatest handled hhandled m hm).2 ⟨handled, List.prefix_rfl, hshown⟩
  · intro hcovered handled hhandled m hm
    refine ⟨mark_mem_seen hI hraises hs hstart handled m hm, fun b hb => ?_⟩
    obtain ⟨m', hm', hle⟩ := seen_le_mark hI hraises hs hmarked handled
      (fun earlier hearlier => hcovered earlier (hearlier.trans hhandled)) b hb
    obtain rfl := Option.some.inj (hm.symm.trans hm')
    exact hle

end Rule

end HighWater
