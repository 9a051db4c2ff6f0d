import Ldktela.Api.Livekit
import Ldktela.Lib.Runs

/-!
# The ceilings of the publisher ledger

What every sequence of claims and releases leaves in the ledger: no room over its
ceilings (`within_run`), every claim exact (`exact_claim`), and no room kept without a
holder, exactly as long as nobody asks for a source whose ceiling is zero in a room
that has no entry (`sound_iff`).
-/

namespace Ldktela
namespace Api

open Protocol

namespace Grants

inductive Act where
  | claim (discordChannelId : Snowflake) (userId : Uuid) (wanted : List PublicationSource)
  | releasePublication (discordChannelId : Snowflake) (userId : Uuid) (source : PublicationSource)
  | releasePublisher (discordChannelId : Snowflake) (userId : Uuid)
  | forgetRoom (discordChannelId : Snowflake)
deriving DecidableEq

def step (config : RoomConfig) (grants : Grants) : Act → Grants
  | .claim c u wanted => (grants.claimPublications config c u wanted).1
  | .releasePublication c u source => grants.releasePublication c u source
  | .releasePublisher c u => grants.releasePublisher c u
  | .forgetRoom c => grants.forgetRoom c

/-- No room has more holders of a source than its ceiling. -/
def Within (config : RoomConfig) (grants : Grants) : Prop :=
  ∀ c source, ((grants.slots c).holders source).card ≤ ceiling config source

/-- No room without holders is kept. -/
def Tidy (grants : Grants) : Prop :=
  ∀ c room, grants.lookup c = some room → room.isEmpty = false

structure Sound (config : RoomConfig) (grants : Grants) : Prop where
  within : grants.Within config
  tidy : grants.Tidy

/-- A claim that succeeds leaves the person holding exactly what they listed in that
room and changes nobody and nothing else; one that is refused changes nobody's
slots. -/
def Exact (config : RoomConfig) (grants : Grants) : Act → Prop
  | .claim c u wanted =>
      ((grants.claimPublications config c u wanted).2 = true → ∀ c' v s,
        (grants.claimPublications config c u wanted).1.Holds c' v s ↔
          if c' = c ∧ v = u then s ∈ wanted else grants.Holds c' v s) ∧
      ((grants.claimPublications config c u wanted).2 = false → ∀ c' v s,
        (grants.claimPublications config c u wanted).1.Holds c' v s ↔ grants.Holds c' v s)
  | .releasePublication _ _ _ | .releasePublisher _ _ | .forgetRoom _ => True

/-- Nobody claims a source whose ceiling is zero in a room that has no entry. -/
def Fits (config : RoomConfig) (grants : Grants) : Act → Prop
  | .claim c _ wanted => grants.lookup c = none → ∀ source ∈ wanted, 0 < ceiling config source
  | .releasePublication _ _ _ | .releasePublisher _ _ | .forgetRoom _ => True

section

variable {config : RoomConfig} {grants grants' : Grants} {c : Snowflake} {u : Uuid}
  {wanted : List PublicationSource}

/-! ## Claims -/

theorem exact_step (act : Act) : grants.Exact config act := by
  cases act with
  | claim c u wanted =>
      constructor
      · intro hgranted c' v s
        rw [holds_claimPublications, hgranted]
        simp only [true_and]
      · intro hrefused c' v s
        rw [holds_claimPublications, hrefused]
        simp only [Bool.false_eq_true, false_and, if_false]
  | releasePublication c u source => trivial
  | releasePublisher c u => trivial
  | forgetRoom c => trivial

/-- Somebody who is granted a source held it already, or found the room not full. -/
theorem room_of_granted (h : (grants.claimPublications config c u wanted).2 = true)
    {source : PublicationSource} (hmem : source ∈ wanted) (hnew : ¬ grants.Holds c u source) :
    ((grants.slots c).holders source).card < ceiling config source := by
  have hallowed : wanted.any (refuses config (grants.slots c) u) = false := by
    by_contra hany
    have hrefused : (grants.claimPublications config c u wanted).2 = false := by
      have hfull : wanted.any
          (refuses config ((grants.lookup c).getD RoomSlots.empty) u) = true :=
        Bool.eq_true_of_not_eq_false hany
      unfold claimPublications
      dsimp only
      rw [if_pos hfull]
    rw [hrefused] at h
    cases h
  have hnot := List.any_eq_false.mp hallowed source hmem
  have hnew : u ∉ (grants.slots c).holders source := hnew
  simp only [refuses, hnew, not_false_eq_true, decide_true, Bool.true_and,
    decide_eq_true_eq] at hnot
  omega

/-! ## The ceilings -/

/-- Fewer holders keep a room within its ceilings. -/
theorem Within.of_holds (h : grants.Within config)
    (hsub : ∀ c v s, grants'.Holds c v s → grants.Holds c v s) : grants'.Within config :=
  fun c source =>
    (Finset.card_le_card fun v hv => hsub c v source hv).trans (h c source)

theorem Within.claim (h : grants.Within config) :
    (grants.claimPublications config c u wanted).1.Within config := by
  cases hgranted : (grants.claimPublications config c u wanted).2 with
  | false =>
      exact h.of_holds fun c' v s hv => ((exact_step (.claim c u wanted)).2 hgranted c' v s).mp hv
  | true =>
      have hstep : grants.Exact config (.claim c u wanted) := exact_step _
      have hexact := hstep.1 hgranted
      intro c' source
      have hadds : ((grants.claimPublications config c u wanted).1.slots c').holders source ⊆
          if c' = c ∧ source ∈ wanted then insert u ((grants.slots c').holders source)
          else (grants.slots c').holders source := by
        intro v hv
        have hv := (hexact c' v source).mp hv
        by_cases hself : c' = c ∧ v = u
        · obtain ⟨rfl, rfl⟩ := hself
          rw [if_pos ⟨rfl, rfl⟩] at hv
          rw [if_pos ⟨rfl, hv⟩]
          exact Finset.mem_insert_self _ _
        · rw [if_neg hself] at hv
          split
          · exact Finset.mem_insert_of_mem hv
          · exact hv
      have hle := h c' source
      refine (Finset.card_le_card hadds).trans ?_
      split
      · next hwanted =>
          obtain ⟨rfl, hmem⟩ := hwanted
          by_cases hholds : grants.Holds c' u source
          · rw [Finset.insert_eq_of_mem hholds]
            exact hle
          · have hroom := room_of_granted hgranted hmem hholds
            have hcard := Finset.card_insert_le u ((grants.slots c').holders source)
            omega
      · exact hle

theorem Within.step (h : grants.Within config) (act : Act) :
    (grants.step config act).Within config := by
  cases act with
  | claim c u wanted => exact h.claim
  | releasePublication c u source =>
      exact h.of_holds fun c' v s hv => (holds_releasePublication.mp hv).1
  | releasePublisher c u => exact h.of_holds fun c' v s hv => (holds_releasePublisher.mp hv).1
  | forgetRoom c => exact h.of_holds fun c' v s hv => (holds_forgetRoom.mp hv).1

/-! ## Empty rooms -/

theorem Tidy.erase (h : grants.Tidy) (c : Snowflake) : Tidy (AList.erase c grants) := by
  intro c' room hroom
  rw [AList.lookup_erase_ite] at hroom
  split at hroom
  · cases hroom
  · exact h c' room hroom

theorem Tidy.insert_iff (h : grants.Tidy) (room : RoomSlots) :
    Tidy (AList.insert c room grants) ↔ room.isEmpty = false := by
  constructor
  · intro hafter
    exact hafter c room (by rw [AList.lookup_insert_ite, if_pos rfl])
  · intro hroom c' room' hlookup
    rw [AList.lookup_insert_ite] at hlookup
    split at hlookup
    · rw [← Option.some.inj hlookup]
      exact hroom
    · exact h c' room' hlookup

theorem Tidy.put (h : grants.Tidy) (room : RoomSlots) : (put c room grants).Tidy := by
  unfold Grants.put
  split
  · exact h.erase c
  · next hroom => exact (h.insert_iff room).mpr (Bool.eq_false_of_not_eq_true hroom)

/-- In an empty room a claim is refused exactly when it lists a source nobody may
have. -/
theorem any_refuses_empty :
    wanted.any (refuses config RoomSlots.empty u) = true ↔
      ¬ ∀ source ∈ wanted, 0 < ceiling config source := by
  simp [refuses, not_forall]

/-- A claim keeps the ledger tidy exactly if it fits. -/
theorem tidy_claim_iff (h : grants.Tidy) :
    (grants.claimPublications config c u wanted).1.Tidy ↔
      grants.Fits config (.claim c u wanted) := by
  unfold claimPublications Fits
  dsimp only
  cases hroom : grants.lookup c with
  | some room =>
      have hkept := h c room hroom
      rw [Option.getD_some]
      refine iff_of_true ?_ fun hnone => by cases hnone
      split
      · exact (h.insert_iff room).mpr hkept
      · exact h.put _
  | none =>
      rw [Option.getD_none]
      split
      · next hrefused =>
          rw [h.insert_iff]
          refine iff_of_false (by decide) fun hfits => ?_
          exact any_refuses_empty.mp hrefused (hfits rfl)
      · next hgranted =>
          refine iff_of_true (h.put _) fun _ => ?_
          by_contra hzero
          exact hgranted (any_refuses_empty.mpr hzero)

theorem tidy_step_iff (h : grants.Tidy) (act : Act) :
    (grants.step config act).Tidy ↔ grants.Fits config act := by
  cases act with
  | claim c u wanted => exact tidy_claim_iff h
  | releasePublication c u source =>
      refine iff_of_true ?_ trivial
      show (grants.releasePublication c u source).Tidy
      unfold releasePublication
      split
      · exact h
      · exact h.put _
  | releasePublisher c u =>
      refine iff_of_true ?_ trivial
      show (grants.releasePublisher c u).Tidy
      unfold releasePublisher
      split
      · exact h
      · exact h.put _
  | forgetRoom c => exact iff_of_true (h.erase c) trivial

end

/-- Along every sequence of operations every claim is exact, and the ledger is within
its ceilings and without an empty room in every state exactly if every claim fits. -/
theorem sound_iff (config : RoomConfig) (acts : List Act) :
    Runs.EachStep (step config) (Exact config) ∅ acts ∧
        Runs.Throughout (step config) (Sound config) ∅ acts ↔
      Runs.EachStep (step config) (Fits config) ∅ acts := by
  have hexact : Runs.EachStep (step config) (Exact config) ∅ acts :=
    Runs.eachStep_of_forall (fun _ act => exact_step act) ∅ acts
  have hempty : Within config ∅ := fun c source => by
    rw [slots, AList.lookup_empty, Option.getD_none, RoomSlots.holders_empty]
    exact Nat.zero_le _
  refine (and_iff_right hexact).trans (Runs.throughout_iff_eachStep (I := Within config)
    (fun grants act h => h.step act) (fun grants act hwithin hsound => ?_) hempty ⟨hempty, ?_⟩)
  · exact ⟨fun h => (tidy_step_iff hsound.tidy act).mp h.tidy,
      fun h => ⟨hwithin.step act, (tidy_step_iff hsound.tidy act).mpr h⟩⟩
  · intro c room hroom
    rw [AList.lookup_empty] at hroom
    cases hroom

/-- With the cameras off, a refused claim leaves the entry of a room nobody is in. -/
theorem refused_camera_keeps_empty_room :
    ¬ Runs.Throughout (step ⟨2, 0⟩) (Sound ⟨2, 0⟩) ∅ [.claim 5 3 [.camera]] := by
  intro h
  have hkept := h.2.tidy 5 RoomSlots.empty (by decide)
  exact absurd hkept (by decide)

end Grants

end Api
end Ldktela
