import Ldktela.Desktop.AudioPolicy
import Ldktela.Lib.Bursts
import Mathlib.Logic.Function.Basic

/-!
# The chimes of a share that begins or ends

`shouldChime` and `chimeForShare` of `desktop/src/platform/chime.ts`, called by `onEvent` of
`desktop/src/app/runtime.ts` for `SHARE_START` and `SHARE_STOP` while the session takes its turns.
`Date.now` is the clock of the machine, which may be set to any time.

What is heard of the shares is kept in a log, with what the calls were given and whether they rang.
-/

namespace Ldktela
namespace Desktop

open SessionTurns

inductive ChimeKind where
  | start
  | stop
deriving DecidableEq

/-- Two shares that begin together are one notice. -/
def burstMs : Nat := 1500

def shouldChime (publisherId : Identity) (selfId : Option Identity) (now : Nat)
    (lastAt : Option Nat) (transmittingOwnPlayback : Bool) : Bool :=
  -- a chime would be captured, and come back from those who watch
  if transmittingOwnPlayback then false
  else if selfId = some publisherId then false
  else lastAt.all fun last => decide (last + burstMs ≤ now)

/-- A call of `chimeForShare`. -/
structure ShareHeard where
  kind : ChimeKind
  publisherId : Identity
  selfId : Option Identity
  now : Nat
  transmittingOwnPlayback : Bool
  rang : Bool

/-- The share is somebody else's, and a chime would not be captured. -/
def ShareHeard.Foreign (h : ShareHeard) : Prop :=
  h.transmittingOwnPlayback = false ∧ h.selfId ≠ some h.publisherId

/-- The page: the session, the clock and the marks of the chimes. -/
structure Chimes (Stats : Type) where
  turns : Turns Stats
  now : Nat
  /-- One mark a kind: a share that ends just when another one begins rings as well. -/
  lastAt : ChimeKind → Option Nat
  heard : List ShareHeard

namespace Chimes

variable {Stats : Type}

def new (now : Nat) : Chimes Stats := ⟨.new, now, fun _ => none, []⟩

def chimeForShare (kind : ChimeKind) (publisherId : Identity) (selfId : Option Identity)
    (transmittingOwnPlayback : Bool) (c : Chimes Stats) : Chimes Stats :=
  let rang := shouldChime publisherId selfId c.now (c.lastAt kind) transmittingOwnPlayback
  { c with
    lastAt := if rang then Function.update c.lastAt kind (some c.now) else c.lastAt
    heard := c.heard ++ [⟨kind, publisherId, selfId, c.now, transmittingOwnPlayback, rang⟩] }

inductive Act (Stats : Type) where
  | clock (now : Nat)
  | turn (act : SessionTurns.Act Stats)
  /-- `SHARE_START` or `SHARE_STOP` of a person. -/
  | event (kind : ChimeKind) (userId : Identity)

def step (kit : LiveKit) (c : Chimes Stats) : Act Stats → Chimes Stats
  | .clock now => { c with now }
  | .turn act => { c with turns := c.turns.step kit act }
  | .event kind userId =>
      c.chimeForShare kind userId c.turns.client.me
        (shouldSilenceOtherScreens c.turns.client.store)

/-- When the chimes of a kind rang. -/
def rings (kind : ChimeKind) (c : Chimes Stats) : List Nat :=
  (c.heard.filter fun h => h.rang && decide (h.kind = kind)).map ShareHeard.now

/-! ## What every run keeps -/

theorem shouldChime_eq_true (publisherId : Identity) (selfId : Option Identity) (now : Nat)
    (lastAt : Option Nat) (transmitting : Bool) :
    shouldChime publisherId selfId now lastAt transmitting = true ↔
      (transmitting = false ∧ selfId ≠ some publisherId) ∧
        ∀ last, lastAt = some last → last + burstMs ≤ now := by
  unfold shouldChime
  cases transmitting with
  | true => simp
  | false =>
      by_cases hself : selfId = some publisherId
      · simp [hself]
      · cases lastAt <;> simp [hself]

structure Inv (c : Chimes Stats) : Prop where
  marked : ∀ kind, c.lastAt kind = (c.rings kind).getLast?
  spaced : ∀ kind, Bursts.Spaced burstMs 0 (c.rings kind)
  foreign : ∀ h ∈ c.heard, h.rang = true → h.Foreign
  /-- What is heard of somebody else's share has rung, or follows a chime closely. -/
  covered : ∀ i (hi : i < c.heard.length), c.heard[i].Foreign →
    ∃ j, ∃ hj : j ≤ i, c.heard[j].rang = true ∧ c.heard[j].kind = c.heard[i].kind ∧
      c.heard[i].now < c.heard[j].now + burstMs

theorem inv_new (now : Nat) : Inv (.new now : Chimes Stats) where
  marked := fun _ => rfl
  spaced := fun _ _ j hj => absurd hj (Nat.not_lt_zero j)
  foreign := fun _ hh => absurd hh List.not_mem_nil
  covered := fun i hi => absurd hi (Nat.not_lt_zero i)

variable {c : Chimes Stats}

/-- The last chime of a kind, in the log. -/
theorem Inv.exists_of_marked (h : Inv c) {kind : ChimeKind} {last : Nat}
    (hlast : c.lastAt kind = some last) :
    ∃ j, ∃ hj : j < c.heard.length, c.heard[j].rang = true ∧ c.heard[j].kind = kind ∧
      c.heard[j].now = last := by
  rw [h.marked kind] at hlast
  obtain ⟨entry, hentry, hnow⟩ := List.mem_map.mp (List.mem_of_getLast? hlast)
  obtain ⟨hmem, hrang⟩ := List.mem_filter.mp hentry
  obtain ⟨j, hj, rfl⟩ := List.getElem_of_mem hmem
  rw [Bool.and_eq_true, decide_eq_true_eq] at hrang
  exact ⟨j, hj, hrang.1, hrang.2, hnow⟩

theorem rings_append {s : Chimes Stats} {entry : ShareHeard} (hs : s.heard = c.heard ++ [entry])
    (kind : ChimeKind) :
    s.rings kind =
      if entry.rang = true ∧ entry.kind = kind then c.rings kind ++ [entry.now]
      else c.rings kind := by
  unfold rings
  rw [hs, List.filter_append, List.map_append]
  by_cases hrings : entry.rang = true ∧ entry.kind = kind
  · rw [if_pos hrings, List.filter_cons_of_pos (by simpa using hrings)]
    rfl
  · rw [if_neg hrings, List.filter_cons_of_neg (by simpa using hrings)]
    exact List.append_nil _

theorem Inv.chimeForShare (h : Inv c) (kind : ChimeKind) (publisherId : Identity)
    (selfId : Option Identity) (transmitting : Bool) :
    Inv (c.chimeForShare kind publisherId selfId transmitting) := by
  have hchime := shouldChime_eq_true publisherId selfId c.now (c.lastAt kind) transmitting
  have hheard : (c.chimeForShare kind publisherId selfId transmitting).heard = c.heard ++
      [⟨kind, publisherId, selfId, c.now, transmitting,
        Desktop.shouldChime publisherId selfId c.now (c.lastAt kind) transmitting⟩] := rfl
  have hmarks : (c.chimeForShare kind publisherId selfId transmitting).lastAt =
      if Desktop.shouldChime publisherId selfId c.now (c.lastAt kind) transmitting then
        Function.update c.lastAt kind (some c.now) else c.lastAt := rfl
  generalize c.chimeForShare kind publisherId selfId transmitting = s at hheard hmarks ⊢
  generalize Desktop.shouldChime publisherId selfId c.now (c.lastAt kind) transmitting = rang
    at hchime hheard hmarks
  have hrings := rings_append hheard
  dsimp only at hrings
  have hother : ∀ k, ¬ (rang = true ∧ kind = k) → s.lastAt k = c.lastAt k := by
    intro k hk
    rw [hmarks]
    split
    · next hrang => exact Function.update_of_ne (fun heq => hk ⟨hrang, heq.symm⟩) _ _
    · rfl
  refine ⟨fun k => ?_, fun k => ?_, fun entry hentry hrang => ?_, fun i hi hforeign => ?_⟩
  · rw [hrings k]
    split
    · next hk =>
        obtain ⟨rfl, rfl⟩ := hk
        rw [hmarks, if_pos rfl, Function.update_self, List.getLast?_concat]
    · next hk => rw [hother k hk, h.marked k]
  · rw [hrings k]
    split
    · next hk =>
        obtain ⟨rfl, rfl⟩ := hk
        refine Bursts.spaced_concat (h.spaced kind) fun last hlast => ?_
        exact (hchime.mp rfl).2 last ((h.marked kind).trans hlast)
    · exact h.spaced k
  · rw [hheard] at hentry
    rcases List.mem_append.mp hentry with hold | hnew
    · exact h.foreign entry hold hrang
    · obtain rfl := List.mem_singleton.mp hnew
      exact (hchime.mp hrang).1
  · simp only [hheard] at hi hforeign ⊢
    rw [List.length_append, List.length_singleton] at hi
    by_cases hold : i < c.heard.length
    · simp only [List.getElem_append_left hold] at hforeign ⊢
      obtain ⟨j, hj, hrang, hkind, hnow⟩ := h.covered i hold hforeign
      refine ⟨j, hj, ?_⟩
      rw [List.getElem_append_left (by omega : j < c.heard.length)]
      exact ⟨hrang, hkind, hnow⟩
    · obtain rfl : i = c.heard.length := by omega
      rw [List.getElem_concat_length rfl] at hforeign
      by_cases hrang : rang = true
      · refine ⟨c.heard.length, Nat.le_refl _, ?_⟩
        rw [List.getElem_concat_length rfl]
        exact ⟨hrang, rfl, by dsimp only [burstMs]; omega⟩
      · -- the mark of the kind is a chime of less than a burst ago
        have hclose : ∃ last, c.lastAt kind = some last ∧ c.now < last + burstMs := by
          by_contra hfar
          refine absurd (hchime.mpr ⟨hforeign, fun last hlast => ?_⟩) hrang
          by_contra hlate
          exact hfar ⟨last, hlast, Nat.lt_of_not_le hlate⟩
        obtain ⟨last, hlast, hnow⟩ := hclose
        obtain ⟨j, hj, hrung, hkind, hat⟩ := h.exists_of_marked hlast
        refine ⟨j, hj.le, ?_⟩
        rw [List.getElem_append_left hj, List.getElem_concat_length rfl]
        exact ⟨hrung, hkind, by rw [hat]; exact hnow⟩

theorem Inv.step (h : Inv c) (kit : LiveKit) (act : Act Stats) : Inv (c.step kit act) := by
  cases act with
  | clock now => exact ⟨h.marked, h.spaced, h.foreign, h.covered⟩
  | turn act => exact ⟨h.marked, h.spaced, h.foreign, h.covered⟩
  | event kind userId => exact h.chimeForShare kind userId _ _

/-- However the shares, the session and the clock go: the chimes of a kind are a burst apart, none
rings for our own share or while our audio would carry it, and none is missing: what is heard of
another person's share rings, or follows a chime of its kind by less than a burst. -/
theorem chimes_run (kit : LiveKit) (now : Nat) (acts : List (Act Stats)) :
    let c := Runs.run (step kit) (.new now) acts
    (∀ kind x width,
        (Bursts.within x width (c.rings kind)).length ≤ width / burstMs + 1) ∧
      (∀ h ∈ c.heard, h.rang = true → h.Foreign) ∧
      ∀ i (hi : i < c.heard.length), c.heard[i].Foreign →
        ∃ j, ∃ hj : j ≤ i, c.heard[j].rang = true ∧ c.heard[j].kind = c.heard[i].kind ∧
          c.heard[i].now < c.heard[j].now + burstMs := by
  intro c
  have hinv : Inv c :=
    Runs.run_invariant (I := Inv) (fun _ act h => h.step kit act) (inv_new now) acts
  exact ⟨fun kind _ _ => Bursts.length_within_le (by decide) (hinv.spaced kind), hinv.foreign,
    hinv.covered⟩

end Chimes

end Desktop
end Ldktela
