import Mathlib.Data.List.MinMax
import Mathlib.Data.List.Sort
import Mathlib.Data.Prod.Lex

/-!
# The formats of a camera

`choose_format` of `desktop/src-tauri/src/camera/mod.rs` and `ranked` of
`camera/mf.rs`: which of the formats that a device offers are asked for, and in which
order.  Sizes and rates are `u32` in the source and nothing computed from them
overflows (areas are `u64`), so they are natural numbers here.

An order is `RankedWell` when it is what the comment on `ranked` promises.  The cut to
`MAX_ATTEMPTS` can take away the uncompressed format that stands at the end, and
`rankedWell_iff` says exactly when it does not.
-/

namespace Ldktela
namespace Camera

structure Size where
  width : Nat
  height : Nat
deriving DecidableEq

/-- The pixel layouts that `convert.rs` turns into NV12. -/
inductive Pixels where
  | nv12
  | i420
  | yuy2
  | uyvy
  | rgb32
  | rgb24
deriving DecidableEq

/-- In the order we would rather have them. -/
def PREFERENCE : List Pixels := [.nv12, .i420, .yuy2, .uyvy, .rgb32, .rgb24]

/-- One video format a device offers. -/
structure Format where
  size : Size
  fps : Nat
deriving DecidableEq

namespace Format

def fits (ceiling : Size) (f : Format) : Bool :=
  f.size.width ≤ ceiling.width && f.size.height ≤ ceiling.height

def area (f : Format) : Nat :=
  f.size.width * f.size.height

/-- A rate below the one asked for is worse than any above it. -/
def rateKey (fps : Nat) (f : Format) : Nat ×ₗ Nat :=
  if f.fps ≥ fps then toLex (0, f.fps - fps) else toLex (1, fps - f.fps)

end Format

/-- The largest frame that fits the ceiling, and of those the rate closest to `fps`; the
smallest frame when none fits. -/
def chooseFormat (offered : List Format) (ceiling : Size) (fps : Nat) : Option Format :=
  let pool := offered.filter (Format.fits ceiling)
  if pool.isEmpty then
    offered.argmin Format.area
  else
    match (pool.map Format.area).max? with
    | none => none
    | some bestArea =>
        (pool.filter fun f => f.area = bestArea).argmin (Format.rateKey fps)

/-- One format the device offers, as the reader lists it. -/
structure Native where
  index : Nat
  format : Format
  /-- `none` for compressed video, which needs a decoder. -/
  pixels : Option Pixels
deriving DecidableEq

def MAX_ATTEMPTS : Nat := 6

/-- Uncompressed before compressed, and the cheapest to convert first. -/
def cost (native : Native) : Nat :=
  match native.pixels with
  | some pixels => PREFERENCE.idxOf pixels
  | none => PREFERENCE.length + 1

/-- The formats that tie with the one that is picked, the cheapest first. -/
def bestOf (ceiling : Size) (fps : Nat) (pool : List Native) : List Native :=
  match chooseFormat (pool.map fun native => native.format) ceiling fps with
  | none => []
  | some best =>
      (pool.filter fun native =>
        native.format.size = best.size ∧ native.format.fps = best.fps).insertionSort
          fun a b => cost a ≤ cost b

/-- One turn of the loop that adds what is not there yet. -/
def pushNew (order : List Native) (native : Native) : List Native :=
  if order.any fun tried => tried.index = native.index then order else order ++ [native]

def uncompressed (natives : List Native) : List Native :=
  natives.filter fun native => native.pixels.isSome

/-- The order before the cut. -/
def tried (natives : List Native) (ceiling : Size) (fps : Nat) : List Native :=
  (bestOf ceiling fps (uncompressed natives)).foldl pushNew (bestOf ceiling fps natives)

/-- The order to try the device's formats in. -/
def ranked (natives : List Native) (ceiling : Size) (fps : Nat) : List Native :=
  (tried natives ceiling fps).take MAX_ATTEMPTS

/-! ## The pick -/

section Choose

variable {offered : List Format} {ceiling : Size} {fps : Nat} {best : Format}

theorem chooseFormat_mem (h : chooseFormat offered ceiling fps = some best) :
    best ∈ offered := by
  unfold chooseFormat at h
  dsimp only at h
  split at h
  · exact List.argmin_mem h
  · split at h
    · cases h
    · have hpool := List.mem_filter.mp (List.argmin_mem h)
      exact (List.mem_filter.mp hpool.1).1

theorem chooseFormat_eq_none_iff : chooseFormat offered ceiling fps = none ↔ offered = [] := by
  constructor
  · intro h
    unfold chooseFormat at h
    dsimp only at h
    split at h
    · exact List.argmin_eq_none.mp h
    · next hpool =>
        split at h
        · next hmax =>
            rw [List.max?_eq_none_iff, List.map_eq_nil_iff] at hmax
            rw [hmax] at hpool
            exact absurd rfl hpool
        · next bestArea hmax =>
            -- a frame of the largest area is among those that fit
            have hmem : bestArea ∈ (offered.filter (Format.fits ceiling)).map Format.area :=
              List.max?_mem hmax
            obtain ⟨f, hf, harea⟩ := List.mem_map.mp hmem
            have hnil := List.argmin_eq_none.mp h
            have hf' : f ∈ (offered.filter (Format.fits ceiling)).filter
                fun f => f.area = bestArea := List.mem_filter.mpr ⟨hf, by simpa using harea⟩
            rw [hnil] at hf'
            cases hf'
  · rintro rfl
    rfl

end Choose

/-! ## The order -/

section Ranked

variable {natives pool order extra : List Native} {ceiling : Size} {fps : Nat}
  {native : Native} {best : Format}

theorem mem_bestOf :
    native ∈ bestOf ceiling fps pool ↔ native ∈ pool ∧
      chooseFormat (pool.map fun native => native.format) ceiling fps = some native.format := by
  unfold bestOf
  split
  · next hnone => simp [hnone]
  · next best hbest =>
      rw [List.mem_insertionSort, List.mem_filter, hbest, Option.some.injEq, decide_eq_true_eq]
      apply and_congr_right
      intro _
      constructor
      · rintro ⟨hsize, hfps⟩
        cases best
        exact (Format.mk.injEq _ _ _ _).mpr ⟨hsize.symm, hfps.symm⟩
      · intro heq
        rw [heq]
        exact ⟨rfl, rfl⟩

/-- The cheapest comes first. -/
theorem pairwise_cost_bestOf (ceiling : Size) (fps : Nat) (pool : List Native) :
    (bestOf ceiling fps pool).Pairwise fun a b => cost a ≤ cost b := by
  unfold bestOf
  split
  · exact List.Pairwise.nil
  · exact List.pairwise_insertionSort _ _

theorem nodup_bestOf (hindices : (pool.map Native.index).Nodup) :
    ((bestOf ceiling fps pool).map Native.index).Nodup := by
  unfold bestOf
  split
  · exact List.nodup_nil
  · refine ((List.perm_insertionSort _ _).map _).nodup_iff.mpr ?_
    exact hindices.sublist (List.Sublist.map _ List.filter_sublist)

theorem bestOf_eq_nil_iff : bestOf ceiling fps pool = [] ↔ pool = [] := by
  constructor
  · intro h
    cases hbest : chooseFormat (pool.map fun native => native.format) ceiling fps with
    | none =>
        rw [chooseFormat_eq_none_iff, List.map_eq_nil_iff] at hbest
        exact hbest
    | some best =>
        obtain ⟨native, hnative, rfl⟩ := List.mem_map.mp (chooseFormat_mem hbest)
        have hmem := mem_bestOf.mpr ⟨hnative, hbest⟩
        rw [h] at hmem
        cases hmem
  · rintro rfl
    rfl

theorem length_bestOf
    (hbest : chooseFormat (pool.map fun native => native.format) ceiling fps = some best) :
    (bestOf ceiling fps pool).length =
      (pool.filter fun native => native.format = best).length := by
  rw [bestOf, hbest]
  dsimp only
  rw [List.length_insertionSort]
  congr 1
  apply List.filter_congr
  intro native _
  cases best
  cases hformat : native.format
  simp

/-! ### What the loop adds -/

theorem prefix_foldl_pushNew : order <+: extra.foldl pushNew order := by
  induction extra generalizing order with
  | nil => exact List.prefix_rfl
  | cons native extra ih =>
      refine List.IsPrefix.trans ?_ ih
      unfold pushNew
      split
      · exact List.prefix_rfl
      · exact List.prefix_append _ _

theorem mem_of_mem_foldl_pushNew (h : native ∈ extra.foldl pushNew order) :
    native ∈ order ∨ native ∈ extra := by
  induction extra generalizing order with
  | nil => exact .inl h
  | cons added extra ih =>
      rcases ih h with hpushed | hextra
      · unfold pushNew at hpushed
        split at hpushed
        · exact .inl hpushed
        · rw [List.mem_append, List.mem_singleton] at hpushed
          refine hpushed.imp_right fun heq => ?_
          rw [heq]
          exact List.mem_cons_self
      · exact .inr (List.mem_cons_of_mem added hextra)

theorem nodup_foldl_pushNew (hnodup : (order.map Native.index).Nodup) :
    ((extra.foldl pushNew order).map Native.index).Nodup := by
  induction extra generalizing order with
  | nil => exact hnodup
  | cons native extra ih =>
      apply ih
      unfold pushNew
      split
      · exact hnodup
      · next hnew =>
          have hindex : native.index ∉ order.map Native.index := by simpa using hnew
          simpa using List.Nodup.concat hindex hnodup

/-- The first addition, if it is not there yet, comes right behind. -/
theorem mem_take_foldl_pushNew {n : Nat} (hnew : native.index ∉ order.map Native.index)
    (hroom : order.length < n) : native ∈ ((native :: extra).foldl pushNew order).take n := by
  have hpushed : pushNew order native = order ++ [native] := by
    refine if_neg fun hany => hnew ?_
    simpa using hany
  rw [List.foldl_cons, hpushed]
  have hprefix : order ++ [native] <+: (extra.foldl pushNew (order ++ [native])).take n := by
    rw [List.prefix_take_iff, List.length_append]
    exact ⟨prefix_foldl_pushNew, hroom⟩
  exact hprefix.subset (List.mem_append_right order (List.mem_singleton_self native))

theorem cost_le_iff : cost native ≤ PREFERENCE.length ↔ native.pixels.isSome = true := by
  unfold cost
  cases native.pixels with
  | none => simp
  | some pixels => simpa using List.idxOf_le_length

/-! ### What the cut leaves -/

theorem prefix_tried (natives : List Native) (ceiling : Size) (fps : Nat) :
    bestOf ceiling fps natives <+: tried natives ceiling fps :=
  prefix_foldl_pushNew

theorem mem_of_mem_tried (h : native ∈ tried natives ceiling fps) : native ∈ natives := by
  rcases mem_of_mem_foldl_pushNew h with hbest | hextra
  · exact (mem_bestOf.mp hbest).1
  · exact (List.mem_filter.mp (mem_bestOf.mp hextra).1).1

theorem head?_ranked : (ranked natives ceiling fps).head? = (bestOf ceiling fps natives).head? := by
  obtain ⟨rest, hrest⟩ := prefix_tried natives ceiling fps
  unfold ranked
  rw [List.head?_take, if_neg (by decide), ← hrest]
  cases hbest : bestOf ceiling fps natives with
  | cons first order => rfl
  | nil =>
      -- nothing to offer, nothing to add
      rw [bestOf_eq_nil_iff] at hbest
      subst hbest
      cases hrest
      rfl

end Ranked

/-! ## A right order -/

/-- What `ranked` promises of the order to try the formats in. -/
structure RankedWell (natives : List Native) (ceiling : Size) (fps : Nat)
    (order : List Native) : Prop where
  length_le : order.length ≤ MAX_ATTEMPTS
  subset : ∀ native ∈ order, native ∈ natives
  nodup : (order.map Native.index).Nodup
  eq_nil_iff : order = [] ↔ natives = []
  /-- The first has the size and rate of the pick, and the cheapest layout. -/
  first : ∀ native, order.head? = some native →
    chooseFormat (natives.map fun n => n.format) ceiling fps = some native.format ∧
      ∀ other ∈ natives, other.format = native.format → cost native ≤ cost other
  /-- A missing decoder never rules out a camera that has raw video. -/
  fallback : (∃ native ∈ natives, native.pixels.isSome = true) →
    ∃ native ∈ order, native.pixels.isSome = true ∧
      chooseFormat ((uncompressed natives).map fun n => n.format) ceiling fps =
        some native.format

section Main

variable {natives : List Native} {ceiling : Size} {fps : Nat} {best raw : Format}

theorem first_ranked {native : Native} (h : (ranked natives ceiling fps).head? = some native) :
    chooseFormat (natives.map fun n => n.format) ceiling fps = some native.format ∧
      ∀ other ∈ natives, other.format = native.format → cost native ≤ cost other := by
  rw [head?_ranked] at h
  obtain ⟨order, horder⟩ := List.head?_eq_some_iff.mp h
  have hmem : native ∈ bestOf ceiling fps natives := by
    rw [horder]
    exact List.mem_cons_self
  have hbest := (mem_bestOf.mp hmem).2
  refine ⟨hbest, fun other hother hformat => ?_⟩
  have htied : other ∈ bestOf ceiling fps natives :=
    mem_bestOf.mpr ⟨hother, hformat ▸ hbest⟩
  have hsorted := pairwise_cost_bestOf ceiling fps natives
  rw [horder] at htied hsorted
  rcases List.mem_cons.mp htied with rfl | hrest
  · exact le_rfl
  · exact List.rel_of_pairwise_cons hsorted hrest

/-- When the best size and rate exist uncompressed, the order starts with them. -/
theorem fallback_of_same
    (hbest : chooseFormat (natives.map fun n => n.format) ceiling fps = some best)
    (hraw : chooseFormat ((uncompressed natives).map fun n => n.format) ceiling fps =
      some best) :
    ∃ native ∈ ranked natives ceiling fps,
      native.pixels.isSome = true ∧ native.format = best := by
  obtain ⟨candidate, hcandidate, hformat⟩ := List.mem_map.mp (chooseFormat_mem hraw)
  obtain ⟨hnative, hpixels⟩ := List.mem_filter.mp hcandidate
  cases hhead : (ranked natives ceiling fps).head? with
  | none =>
      rw [head?_ranked, List.head?_eq_none_iff, bestOf_eq_nil_iff] at hhead
      rw [hhead] at hnative
      cases hnative
  | some native =>
      obtain ⟨hpick, hcheapest⟩ := first_ranked hhead
      have hsame : native.format = best := Option.some.inj (hpick.symm.trans hbest)
      refine ⟨native, List.mem_of_head? hhead, ?_, hsame⟩
      rw [← cost_le_iff]
      have hle := hcheapest candidate hnative (hformat.trans hsame.symm)
      exact hle.trans (cost_le_iff.mpr hpixels)

/-- When they only exist compressed, the best uncompressed format is behind them, unless
the cut takes it away. -/
theorem fallback_of_room (hindices : (natives.map Native.index).Nodup)
    (hbest : chooseFormat (natives.map fun n => n.format) ceiling fps = some best)
    (hraw : chooseFormat ((uncompressed natives).map fun n => n.format) ceiling fps = some raw)
    (hne : best ≠ raw)
    (hroom : (natives.filter fun native => native.format = best).length < MAX_ATTEMPTS) :
    ∃ native ∈ ranked natives ceiling fps,
      native.pixels.isSome = true ∧ native.format = raw := by
  cases hextra : bestOf ceiling fps (uncompressed natives) with
  | nil =>
      rw [bestOf_eq_nil_iff] at hextra
      rw [hextra] at hraw
      cases hraw
  | cons native extra =>
      have hmem : native ∈ bestOf ceiling fps (uncompressed natives) := by
        rw [hextra]
        exact List.mem_cons_self
      obtain ⟨hunc, hpick⟩ := mem_bestOf.mp hmem
      obtain ⟨hnative, hpixels⟩ := List.mem_filter.mp hunc
      have hformat : native.format = raw := Option.some.inj (hpick.symm.trans hraw)
      refine ⟨native, ?_, hpixels, hformat⟩
      have hnew : native.index ∉ (bestOf ceiling fps natives).map Native.index := by
        intro hindex
        obtain ⟨other, hother, heq⟩ := List.mem_map.mp hindex
        obtain ⟨hother, hpicked⟩ := mem_bestOf.mp hother
        obtain rfl := List.inj_on_of_nodup_map hindices hother hnative heq
        exact hne (Option.some.inj (hbest.symm.trans hpicked) |>.trans hformat)
      rw [ranked, tried, hextra]
      exact mem_take_foldl_pushNew hnew (by rwa [length_bestOf hbest])

/-- When as many formats as are tried tie with the pick, nothing else is tried. -/
theorem format_of_mem_ranked {native : Native}
    (hbest : chooseFormat (natives.map fun n => n.format) ceiling fps = some best)
    (hfull : MAX_ATTEMPTS ≤ (natives.filter fun native => native.format = best).length)
    (h : native ∈ ranked natives ceiling fps) : native.format = best := by
  rw [← length_bestOf hbest] at hfull
  obtain ⟨rest, hrest⟩ := prefix_tried natives ceiling fps
  rw [ranked, ← hrest, List.take_append_of_le_length hfull] at h
  have hpick := (mem_bestOf.mp (List.mem_of_mem_take h)).2
  exact Option.some.inj (hpick.symm.trans hbest)

/-- The order is right exactly when the best uncompressed format is as good as the best
one, or fewer than `MAX_ATTEMPTS` formats tie with the best one. -/
theorem rankedWell_iff (natives : List Native) (ceiling : Size) (fps : Nat)
    (hindices : (natives.map Native.index).Nodup) :
    RankedWell natives ceiling fps (ranked natives ceiling fps) ↔
      ∀ best raw, chooseFormat (natives.map fun n => n.format) ceiling fps = some best →
        chooseFormat ((uncompressed natives).map fun n => n.format) ceiling fps = some raw →
          best = raw ∨
            (natives.filter fun native => native.format = best).length < MAX_ATTEMPTS := by
  constructor
  · intro h best raw hbest hraw
    by_contra! hcut
    obtain ⟨hne, hfull⟩ := hcut
    obtain ⟨candidate, hcandidate, -⟩ := List.mem_map.mp (chooseFormat_mem hraw)
    obtain ⟨hnative, hpixels⟩ := List.mem_filter.mp hcandidate
    obtain ⟨native, hmem, -, hpick⟩ := h.fallback ⟨candidate, hnative, hpixels⟩
    -- all that is tried ties with the best one, and the uncompressed pick does not
    have hsame := format_of_mem_ranked hbest hfull hmem
    exact hne (hsame.symm.trans (Option.some.inj (hpick.symm.trans hraw)))
  · intro hcondition
    refine ⟨List.length_take_le _ _, ?_, ?_, ?_, fun native => first_ranked, ?_⟩
    · exact fun native hmem => mem_of_mem_tried (List.mem_of_mem_take hmem)
    · have hnodup : ((tried natives ceiling fps).map Native.index).Nodup :=
        nodup_foldl_pushNew (nodup_bestOf hindices)
      exact hnodup.sublist (List.Sublist.map _ (List.take_sublist _ _))
    · rw [← List.head?_eq_none_iff, head?_ranked, List.head?_eq_none_iff, bestOf_eq_nil_iff]
    · rintro ⟨candidate, hnative, hpixels⟩
      have hunc : candidate ∈ uncompressed natives := List.mem_filter.mpr ⟨hnative, hpixels⟩
      cases hraw : chooseFormat ((uncompressed natives).map fun n => n.format) ceiling fps with
      | none =>
          rw [chooseFormat_eq_none_iff, List.map_eq_nil_iff] at hraw
          rw [hraw] at hunc
          cases hunc
      | some raw =>
          cases hbest : chooseFormat (natives.map fun n => n.format) ceiling fps with
          | none =>
              rw [chooseFormat_eq_none_iff, List.map_eq_nil_iff] at hbest
              rw [hbest] at hnative
              cases hnative
          | some best =>
              by_cases hsame : best = raw
              · subst hsame
                obtain ⟨native, hmem, hpixels, rfl⟩ := fallback_of_same hbest hraw
                exact ⟨native, hmem, hpixels, rfl⟩
              · -- what ties leaves a place, and the uncompressed pick takes it
                have hroom := (hcondition best raw hbest hraw).resolve_left hsame
                obtain ⟨native, hmem, hpixels, rfl⟩ :=
                  fallback_of_room hindices hbest hraw hsame hroom
                exact ⟨native, hmem, hpixels, rfl⟩

end Main

/-- A webcam with 720p at 30 frames only compressed, and a slower raw mode. -/
theorem rankedWell_iff_webcam :
    let natives : List Native :=
      [⟨0, ⟨⟨1280, 720⟩, 10⟩, some .yuy2⟩, ⟨1, ⟨⟨1280, 720⟩, 30⟩, none⟩,
        ⟨2, ⟨⟨640, 480⟩, 30⟩, some .yuy2⟩]
    RankedWell natives ⟨1280, 720⟩ 30 (ranked natives ⟨1280, 720⟩ 30) ∧
      (ranked natives ⟨1280, 720⟩ 30).map Native.index = [1, 0] := by
  intro natives
  refine ⟨(rankedWell_iff natives ⟨1280, 720⟩ 30 (by decide)).mpr ?_, by decide⟩
  intro best raw hbest _
  have hpick : best = ⟨⟨1280, 720⟩, 30⟩ := by
    rw [show chooseFormat (natives.map fun n => n.format) ⟨1280, 720⟩ 30 =
      some ⟨⟨1280, 720⟩, 30⟩ from by decide] at hbest
    exact (Option.some.inj hbest).symm
  subst hpick
  exact .inr (by decide)

/-- The mode of the highest rate listed six times, compressed, and a raw one behind it:
the raw one is never tried. -/
theorem not_rankedWell_repeated :
    let natives : List Native :=
      ⟨6, ⟨⟨640, 480⟩, 30⟩, some .yuy2⟩ ::
        (List.range 6).map fun index => ⟨index, ⟨⟨1280, 720⟩, 30⟩, none⟩
    (natives.map Native.index).Nodup ∧
      ¬ RankedWell natives ⟨1280, 720⟩ 30 (ranked natives ⟨1280, 720⟩ 30) := by
  intro natives
  refine ⟨by decide, fun h => ?_⟩
  obtain ⟨native, hmem, hpixels, -⟩ := h.fallback ⟨_, List.mem_cons_self, rfl⟩
  have hall : ∀ native ∈ ranked natives ⟨1280, 720⟩ 30, native.pixels = none := by decide
  rw [hall native hmem] at hpixels
  cases hpixels

end Camera
end Ldktela
