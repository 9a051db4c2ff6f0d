import Ldktela.Desktop.MediaStore
import Ldktela.Lib.Runs

/-!
# A screen in a window of its own

`onDetach` of `desktop/src/features/room/ScreenGrid.tsx` over `detach` of
`desktop/src/media/pip.ts`, with `detached` of the media store.  The media element of a tile is
moved into a popup and has to come back whichever way that ends: the button, the window's own
close, which is told by an event that may never come or noticed by an interval, or the grid that
goes away.  Events and intervals of windows that ended before may still arrive.

A media element has one place of its own, the tile that made it; `place` says in which popup it
is, if it is in one.  `detached_run` is what holds in every order.
-/

namespace Ldktela
namespace Desktop
namespace Detached

open Runs

/-- What `detach` keeps of one popup; the popups are numbered as they open. -/
structure Popup where
  id : PublicationId
  element : Nat
  /-- `target.closed` is false. -/
  isOpen : Bool
  /-- `finish` has run. -/
  done : Bool
  /-- The listener of `pagehide`. -/
  listening : Bool
  /-- The interval. -/
  watching : Bool

structure World where
  /-- `detached` of the media store. -/
  detached : Option PublicationId
  /-- `detachedWindow` of the grid. -/
  current : Option Nat
  popups : List Popup
  /-- The media element of each mounted tile. -/
  tiles : Table PublicationId Nat
  place : Nat → Option Nat

namespace World

def initial : World := ⟨none, none, [], ∅, fun _ => none⟩

def update (k : Nat) (f : Popup → Popup) (w : World) : World :=
  { w with popups := w.popups.modify k f }

def moveTo (element : Nat) (target : Option Nat) (w : World) : World :=
  { w with place := fun e => if e = element then target else w.place e }

/-- `finish`, with the `onClose` that the grid gives. -/
def finish (k : Nat) (w : World) : World :=
  match w.popups[k]? with
  | none => w
  | some popup =>
      if popup.done then w
      else
        { (w.update k fun popup => { popup with done := true, watching := false }).moveTo
            popup.element none with
          detached := none
          current := none }

/-- `close` of the handle. -/
def close (k : Nat) (w : World) : World :=
  ((w.update k fun popup => { popup with listening := false }).finish k).update k
    fun popup => { popup with isOpen := false }

/-- `detachedWindow.current?.close()`, and the handle is let go of. -/
def closeCurrent (w : World) : World :=
  match w.current with
  | none => w
  | some k => { w.close k with current := none }

/-- The element that the selector finds: that of the mounted tile, while it is there. -/
def query (id : PublicationId) (w : World) : Option Nat :=
  (w.tiles.lookup id).filter fun element => (w.place element).isNone

/-- `opens` says that the WebView does not refuse the window. -/
def onDetach (id : PublicationId) (opens : Bool) (w : World) : World :=
  if w.detached = some id then w.closeCurrent
  else
    let w := w.closeCurrent
    match w.query id with
    | none => w
    | some element =>
        if opens then
          let popup : Popup := ⟨id, element, true, false, true, true⟩
          { w.moveTo element (some w.popups.length) with
            popups := w.popups ++ [popup]
            current := some w.popups.length
            detached := some id }
        else
          w

inductive Act where
  | onDetach (id : PublicationId) (opens : Bool)
  /-- The person closes the window. -/
  | closed (k : Nat)
  | pagehide (k : Nat)
  /-- The interval of the popup, while it has one. -/
  | tick (k : Nat)
  | mounted (id : PublicationId) (element : Nat)
  | unmounted (id : PublicationId)
  /-- The store drops a publication, and what points to it. -/
  | dropped (id : PublicationId)
  /-- The grid goes away, with its tiles. -/
  | gridUnmounted

def step (w : World) : Act → World
  | .onDetach id opens => w.onDetach id opens
  | .closed k => w.update k fun popup => { popup with isOpen := false }
  | .pagehide k =>
      match w.popups[k]? with
      | none => w
      | some popup =>
          if popup.listening then
            (w.update k fun popup => { popup with listening := false }).finish k
          else w
  | .tick k =>
      match w.popups[k]? with
      | none => w
      | some popup => if popup.watching && !popup.isOpen then w.finish k else w
  | .mounted id element => { w with tiles := w.tiles.insert id element }
  | .unmounted id => { w with tiles := w.tiles.erase id }
  | .dropped id => { w with detached := if w.detached = some id then none else w.detached }
  | .gridUnmounted => { w.closeCurrent with tiles := ∅ }

/-! ## At home, or out -/

/-- The popups but this one have ended, with their intervals. -/
def Ended (w : World) (but : Option Nat) : Prop :=
  ∀ k popup, w.popups[k]? = some popup → but ≠ some k →
    popup.done = true ∧ popup.watching = false

/-- Every element is in its tile. -/
structure Home (w : World) : Prop where
  current : w.current = none
  detached : w.detached = none
  ended : w.Ended none
  place : ∀ element, w.place element = none

/-- One element is in the popup that the grid holds, which has not ended. -/
structure Out (w : World) (k : Nat) (popup : Popup) : Prop where
  current : w.current = some k
  held : w.popups[k]? = some popup
  done : popup.done = false
  watching : popup.watching = true
  ended : w.Ended (some k)
  place : ∀ element, w.place element = if element = popup.element then some k else none
  /-- The store may have dropped the publication. -/
  detached : w.detached = none ∨ w.detached = some popup.id

def Inv (w : World) : Prop :=
  w.Home ∨ ∃ k popup, w.Out k popup

variable {w : World} {k : Nat} {popup : Popup}

theorem getElem?_update {f : Popup → Popup} {j : Nat} {changed : Popup}
    (h : (w.update k f).popups[j]? = some changed) :
    ∃ before, w.popups[j]? = some before ∧ changed = if k = j then f before else before := by
  simp only [update, List.getElem?_modify] at h
  obtain ⟨before, hbefore, rfl⟩ := Option.map_eq_some_iff.mp h
  exact ⟨before, hbefore, rfl⟩

/-- What is not about `done` and the interval changes nothing here. -/
theorem Ended.update {but : Option Nat} (h : w.Ended but) {f : Popup → Popup}
    (hdone : ∀ popup, (f popup).done = popup.done)
    (hwatching : ∀ popup, (f popup).watching = popup.watching) : (w.update k f).Ended but := by
  intro j changed hchanged hbut
  obtain ⟨before, hbefore, rfl⟩ := getElem?_update hchanged
  split
  · rw [hdone, hwatching]
    exact h j before hbefore hbut
  · exact h j before hbefore hbut

theorem Home.update (h : w.Home) {f : Popup → Popup}
    (hdone : ∀ popup, (f popup).done = popup.done)
    (hwatching : ∀ popup, (f popup).watching = popup.watching) : (w.update k f).Home :=
  ⟨h.current, h.detached, h.ended.update hdone hwatching, h.place⟩

theorem Out.update (h : w.Out k popup) {f : Popup → Popup} {j : Nat}
    (hdone : ∀ popup, (f popup).done = popup.done)
    (hwatching : ∀ popup, (f popup).watching = popup.watching)
    (hid : ∀ popup, (f popup).id = popup.id)
    (helement : ∀ popup, (f popup).element = popup.element) :
    ∃ changed, (w.update j f).Out k changed := by
  have hchanged : (w.update j f).popups[k]? = some (if j = k then f popup else popup) := by
    simp only [World.update, List.getElem?_modify, h.held, Option.map_eq_map, Option.map_some]
  refine ⟨_, h.current, hchanged, ?_, ?_, h.ended.update hdone hwatching, ?_, ?_⟩
  · split
    · exact (hdone popup).trans h.done
    · exact h.done
  · split
    · exact (hwatching popup).trans h.watching
    · exact h.watching
  · split
    · rw [helement]
      exact h.place
    · exact h.place
  · split
    · rw [hid]
      exact h.detached
    · exact h.detached

/-- A popup that has ended ends no more. -/
theorem finish_of_done (h : w.popups[k]? = some popup) (hdone : popup.done = true) :
    w.finish k = w := by
  simp only [finish, h, hdone, if_true]

theorem finish_of_none (h : w.popups[k]? = none) : w.finish k = w := by
  simp only [finish, h]

/-- The element comes home with the end of its popup. -/
theorem Out.finish (h : w.Out k popup) : (w.finish k).Home := by
  simp only [World.finish, h.held, h.done, Bool.false_eq_true, if_false]
  refine ⟨rfl, rfl, fun j changed hchanged _ => ?_, fun element => ?_⟩
  · obtain ⟨before, hbefore, rfl⟩ := getElem?_update hchanged
    split
    · exact ⟨rfl, rfl⟩
    · next hne => exact h.ended j before hbefore fun heq => hne (Option.some.inj heq)
  · show (if element = popup.element then none else w.place element) = none
    split
    · rfl
    · next hne =>
        rw [h.place, if_neg hne]

/-- The end of any popup leaves the rest as it was, but for that of the one that is out. -/
theorem Inv.finish (h : w.Inv) (k : Nat) : (w.finish k).Inv := by
  cases hpopup : w.popups[k]? with
  | none =>
      rw [finish_of_none hpopup]
      exact h
  | some popup =>
      rcases h with hhome | ⟨j, other, hout⟩
      · rw [finish_of_done hpopup (hhome.ended k popup hpopup (by simp)).1]
        exact .inl hhome
      · by_cases hk : j = k
        · subst hk
          exact .inl hout.finish
        · have hdone := (hout.ended k popup hpopup fun heq => hk (Option.some.inj heq)).1
          rw [finish_of_done hpopup hdone]
          exact .inr ⟨j, other, hout⟩

/-- Letting go of the handle leaves nothing outside. -/
theorem home_closeCurrent (h : w.Inv) : w.closeCurrent.Home := by
  unfold closeCurrent
  rcases h with hhome | ⟨k, popup, hout⟩
  · rw [hhome.current]
    exact hhome
  · rw [hout.current]
    obtain ⟨changed, hchanged⟩ := hout.update (j := k) (f := fun popup =>
      { popup with listening := false }) (fun _ => rfl) (fun _ => rfl) (fun _ => rfl)
      fun _ => rfl
    have hclosed : (w.close k).Home := hchanged.finish.update (fun _ => rfl) fun _ => rfl
    exact ⟨rfl, hclosed.detached, hclosed.ended, hclosed.place⟩

/-- A popup that opens while everything is home takes one element out. -/
theorem Home.opens (h : w.Home) (id : PublicationId) (element : Nat) :
    Out { w.moveTo element (some w.popups.length) with
      popups := w.popups ++ [⟨id, element, true, false, true, true⟩]
      current := some w.popups.length
      detached := some id } w.popups.length ⟨id, element, true, false, true, true⟩ where
  current := rfl
  held := by simp
  done := rfl
  watching := rfl
  ended j popup hpopup hne := by
    have hlt : j < w.popups.length := by
      have hj := (List.getElem?_eq_some_iff.mp hpopup).1
      rw [List.length_append, List.length_singleton] at hj
      have hother : w.popups.length ≠ j := fun heq => hne (congrArg some heq)
      omega
    refine h.ended j popup ?_ (by simp)
    rw [← hpopup]
    exact (List.getElem?_append_left hlt).symm
  place other := by
    show (if other = element then some w.popups.length else w.place other) = _
    rw [h.place]
  detached := .inr rfl

theorem Inv.onDetach (h : w.Inv) (id : PublicationId) (opens : Bool) :
    (w.onDetach id opens).Inv := by
  have hhome := home_closeCurrent h
  unfold World.onDetach
  split
  · exact .inl hhome
  · dsimp only
    split
    · exact .inl hhome
    · next element hquery =>
        split
        · exact .inr ⟨_, _, hhome.opens id element⟩
        · exact .inl hhome

theorem Inv.update (h : w.Inv) {f : Popup → Popup}
    (hdone : ∀ popup, (f popup).done = popup.done)
    (hwatching : ∀ popup, (f popup).watching = popup.watching)
    (hid : ∀ popup, (f popup).id = popup.id)
    (helement : ∀ popup, (f popup).element = popup.element) : (w.update k f).Inv := by
  rcases h with hhome | ⟨j, popup, hout⟩
  · exact .inl (hhome.update hdone hwatching)
  · exact .inr ⟨j, hout.update hdone hwatching hid helement⟩

theorem inv_step (h : w.Inv) (act : Act) : (w.step act).Inv := by
  cases act with
  | onDetach id opens => exact h.onDetach id opens
  | closed k => exact h.update (fun _ => rfl) (fun _ => rfl) (fun _ => rfl) fun _ => rfl
  | pagehide k =>
      simp only [step]
      split
      · exact h
      · split
        · have hdeaf : (w.update k fun popup => { popup with listening := false }).Inv :=
            h.update (fun _ => rfl) (fun _ => rfl) (fun _ => rfl) fun _ => rfl
          exact hdeaf.finish k
        · exact h
  | tick k =>
      simp only [step]
      split
      · exact h
      · split
        · exact h.finish k
        · exact h
  | mounted id element =>
      rcases h with hhome | ⟨k, popup, hout⟩
      · exact .inl ⟨hhome.current, hhome.detached, hhome.ended, hhome.place⟩
      · exact .inr ⟨k, popup, hout.current, hout.held, hout.done, hout.watching, hout.ended,
          hout.place, hout.detached⟩
  | unmounted id =>
      rcases h with hhome | ⟨k, popup, hout⟩
      · exact .inl ⟨hhome.current, hhome.detached, hhome.ended, hhome.place⟩
      · exact .inr ⟨k, popup, hout.current, hout.held, hout.done, hout.watching, hout.ended,
          hout.place, hout.detached⟩
  | dropped id =>
      rcases h with hhome | ⟨k, popup, hout⟩
      · refine .inl ⟨hhome.current, ?_, hhome.ended, hhome.place⟩
        show (if w.detached = some id then none else w.detached) = none
        rw [hhome.detached, if_neg (by simp)]
      · refine .inr ⟨k, popup, hout.current, hout.held, hout.done, hout.watching, hout.ended,
          hout.place, ?_⟩
        show (if w.detached = some id then none else w.detached) = none ∨
          (if w.detached = some id then none else w.detached) = some popup.id
        split
        · exact .inl rfl
        · exact hout.detached
  | gridUnmounted =>
      have hhome := home_closeCurrent h
      exact .inl ⟨hhome.current, hhome.detached, hhome.ended, hhome.place⟩

theorem home_initial : initial.Home :=
  ⟨rfl, rfl, fun _ _ hpopup _ => by simp [initial] at hpopup, fun _ => rfl⟩

theorem inv_run (acts : List Act) : (run step initial acts).Inv :=
  run_invariant (I := Inv) (fun _ act h => inv_step h act) (.inl home_initial) acts

/-! ## Every run -/

/-- The popup holds its element: `finish` has not run. -/
def Holds (w : World) (k : Nat) (popup : Popup) : Prop :=
  w.popups[k]? = some popup ∧ popup.done = false

theorem Home.not_holds (h : w.Home) : ¬ w.Holds k popup := fun hholds => by
  have hdone := (h.ended k popup hholds.1 (by simp)).1
  rw [hholds.2] at hdone
  cases hdone

/-- The popup that holds its element is the one that is out. -/
theorem Inv.out (h : w.Inv) (hholds : w.Holds k popup) : w.Out k popup := by
  rcases h with hhome | ⟨j, other, hout⟩
  · exact absurd hholds hhome.not_holds
  · have hk : k = j := by
      by_contra hne
      have hdone := (hout.ended k popup hholds.1 fun heq => hne (Option.some.inj heq).symm).1
      rw [hholds.2] at hdone
      cases hdone
    subst hk
    obtain rfl : other = popup := Option.some.inj (hout.held.symm.trans hholds.1)
    exact hout

/-- A popup that is closed is noticed by its interval, whether its event came or not. -/
theorem home_tick (h : w.Inv) (hholds : w.Holds k popup) (hclosed : popup.isOpen = false) :
    (w.step (.tick k)).Home := by
  have hout := h.out hholds
  simp only [step, hholds.1, hout.watching, hclosed, Bool.not_false, Bool.and_true, if_true]
  exact hout.finish

/-- What the store and the grid say of the popups is what they are: one at a time holds an
element, which is nowhere else, every other element is in its tile, no interval outlives its
popup, and whatever ends a popup brings its element home. -/
structure Consistent (w : World) : Prop where
  current : ∀ k, w.current = some k ↔ ∃ popup, w.Holds k popup
  place : ∀ element k, w.place element = some k ↔
    ∃ popup, w.Holds k popup ∧ popup.element = element
  detached : ∀ id, w.detached = some id → ∃ k popup, w.Holds k popup ∧ popup.id = id
  watching : ∀ (k : Nat) (popup : Popup), w.popups[k]? = some popup →
    (popup.watching = true ↔ popup.done = false)
  tick : ∀ k popup, w.Holds k popup → popup.isOpen = false → (w.step (.tick k)).Home
  back : ∀ id opens, w.detached = some id → (w.step (.onDetach id opens)).Home
  gridUnmounted : (w.step .gridUnmounted).Home

theorem Inv.consistent (h : w.Inv) : w.Consistent where
  current k := by
    constructor
    · intro hcurrent
      rcases h with hhome | ⟨j, popup, hout⟩
      · cases hhome.current.symm.trans hcurrent
      · obtain rfl : j = k := Option.some.inj (hout.current.symm.trans hcurrent)
        exact ⟨popup, hout.held, hout.done⟩
    · rintro ⟨popup, hholds⟩
      exact (h.out hholds).current
  place element k := by
    constructor
    · intro hplace
      rcases h with hhome | ⟨j, popup, hout⟩
      · cases (hhome.place element).symm.trans hplace
      · rw [hout.place] at hplace
        split at hplace
        · next helement =>
            obtain rfl : j = k := Option.some.inj hplace
            exact ⟨popup, ⟨hout.held, hout.done⟩, helement.symm⟩
        · cases hplace
    · rintro ⟨popup, hholds, rfl⟩
      rw [(h.out hholds).place, if_pos rfl]
  detached id hid := by
    rcases h with hhome | ⟨k, popup, hout⟩
    · cases hhome.detached.symm.trans hid
    · refine ⟨k, popup, ⟨hout.held, hout.done⟩, ?_⟩
      rcases hout.detached with hnone | hsome
      · cases hnone.symm.trans hid
      · exact Option.some.inj (hsome.symm.trans hid)
  watching k popup hpopup := by
    cases hdone : popup.done with
    | false => exact iff_of_true (h.out ⟨hpopup, hdone⟩).watching rfl
    | true =>
        refine iff_of_false (fun hwatching => ?_) (by simp)
        have hended : popup.watching = false := by
          rcases h with hhome | ⟨j, other, hout⟩
          · exact (hhome.ended k popup hpopup (by simp)).2
          · refine (hout.ended k popup hpopup fun heq => ?_).2
            obtain rfl : j = k := Option.some.inj heq
            obtain rfl : other = popup := Option.some.inj (hout.held.symm.trans hpopup)
            cases hout.done.symm.trans hdone
        cases hended.symm.trans hwatching
  tick _ _ hholds hclosed := home_tick h hholds hclosed
  back id opens hid := by
    show (w.onDetach id opens).Home
    rw [World.onDetach, if_pos hid]
    exact home_closeCurrent h
  gridUnmounted :=
    have hhome := home_closeCurrent h
    ⟨hhome.current, hhome.detached, hhome.ended, hhome.place⟩

/-- Whatever the order of clicks, closed windows, late events and intervals, and tiles that come
and go. -/
theorem detached_run (acts : List Act) : (run step initial acts).Consistent :=
  (inv_run acts).consistent

end World

end Detached
end Desktop
end Ldktela
