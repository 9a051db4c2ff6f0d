import Mathlib.Algebra.GroupWithZero.Nat
import Ldktela.Db.LiveTags
import Ldktela.Lib.Runs

/-!
# The nickname of whoever is live

`apply_nickname`, `restore_nickname` and `sweep_stale_tags` of
`crates/bot/src/announce.rs`.  One task makes the calls, one after the other; each
step of a call is a step of the run, and between two of them the process may stop and
start again, or somebody may change a nickname.  What Discord does with an edit is an
argument.

A nickname that is dirty (still the one `apply_nickname` set) should have a record of
the one before.  `dirty_recorded_throughout_iff` says along which runs it has: the record
is written before the tag is put on, and it is deleted before the tag is taken off.
-/

namespace Ldktela
namespace Bot
namespace Nicknames

open Protocol
open Db (LiveTag LiveTags TaggedMember)

/-! ## The tagged nickname -/

def PREFIX : String := "[🔴LIVE] "

def LEGACY_PREFIX : String := "[LIVE] "

/-- In UTF-16 units. -/
def NICK_LIMIT : Nat := 32

def lenUtf16 (c : Char) : Nat :=
  if c.val < 0x10000 then 1 else 2

def encodeUtf16Count (s : String) : Nat :=
  (s.toList.map lenUtf16).sum

/-- Whole characters, as long as they fit. -/
def takeUtf16 : Nat → List Char → List Char
  | _, [] => []
  | room, c :: cs => if lenUtf16 c ≤ room then c :: takeUtf16 (room - lenUtf16 c) cs else []

def startsWith (text start : String) : Bool :=
  start.toList.isPrefixOf text.toList

/-- The tagged nickname, or `none` when it is already tagged. -/
def taggedNickname (current : Option String) (username : String) : Option String :=
  let base := current.getD username
  if startsWith base PREFIX || startsWith base LEGACY_PREFIX then
    none
  else
    some (PREFIX ++ String.ofList
      (takeUtf16 (NICK_LIMIT - encodeUtf16Count PREFIX) base.toList))

/-- Tagging is idempotent. -/
theorem taggedNickname_idem {current : Option String} {username nickname : String}
    (h : taggedNickname current username = some nickname) (username' : String) :
    taggedNickname (some nickname) username' = none := by
  have hprefix : startsWith nickname PREFIX = true := by
    unfold taggedNickname at h
    dsimp only at h
    split at h
    · cases h
    · rw [← Option.some.inj h, startsWith, String.toList_append, List.isPrefixOf_iff_prefix]
      exact List.prefix_append _ _
  simp [taggedNickname, hprefix]

theorem sum_takeUtf16_le (room : Nat) (cs : List Char) :
    ((takeUtf16 room cs).map lenUtf16).sum ≤ room := by
  induction cs generalizing room with
  | nil => exact Nat.zero_le room
  | cons c cs ih =>
      unfold takeUtf16
      split
      · next hfits =>
          have hrest := ih (room - lenUtf16 c)
          rw [List.map_cons, List.sum_cons]
          omega
      · exact Nat.zero_le room

/-- It fits, with its prefix. -/
theorem taggedNickname_fits {current : Option String} {username nickname : String}
    (h : taggedNickname current username = some nickname) :
    encodeUtf16Count nickname ≤ NICK_LIMIT := by
  unfold taggedNickname at h
  dsimp only at h
  split at h
  · cases h
  · have hroom := sum_takeUtf16_le (NICK_LIMIT - encodeUtf16Count PREFIX)
      (current.getD username).toList
    have hprefix : encodeUtf16Count PREFIX ≤ NICK_LIMIT := by decide
    rw [← Option.some.inj h, encodeUtf16Count, String.toList_append, List.map_append,
      List.sum_append, String.toList_ofList]
    unfold encodeUtf16Count at hroom hprefix ⊢
    omega

theorem encodeUtf16Count_append (s t : String) :
    encodeUtf16Count (s ++ t) = encodeUtf16Count s + encodeUtf16Count t := by
  unfold encodeUtf16Count
  rw [String.toList_append, List.map_append, List.sum_append]

theorem encodeUtf16Count_ofList (cs : List Char) :
    encodeUtf16Count (String.ofList cs) = (cs.map lenUtf16).sum := by
  rw [encodeUtf16Count, String.toList_ofList]

theorem isPrefix_takeUtf16_self (room : Nat) (cs : List Char) : takeUtf16 room cs <+: cs := by
  induction cs generalizing room with
  | nil => exact List.prefix_rfl
  | cons c cs ih =>
      unfold takeUtf16
      split
      · exact (List.prefix_cons_inj c).mpr (ih _)
      · exact List.nil_prefix

/-- No longer one fits. -/
theorem isPrefix_takeUtf16 {room : Nat} {longer cs : List Char} (hlonger : longer <+: cs)
    (hfits : (longer.map lenUtf16).sum ≤ room) : longer <+: takeUtf16 room cs := by
  induction cs generalizing room longer with
  | nil =>
      rw [List.prefix_nil.mp hlonger]
      exact List.nil_prefix
  | cons c cs ih =>
      cases longer with
      | nil => exact List.nil_prefix
      | cons d longer =>
          obtain ⟨rfl, htail⟩ := List.cons_prefix_cons.mp hlonger
          rw [List.map_cons, List.sum_cons] at hfits
          -- the first character fits, and the rest fits in what it leaves
          have hfirst : lenUtf16 d ≤ room := by omega
          have hrest : (longer.map lenUtf16).sum ≤ room - lenUtf16 d := by omega
          rw [takeUtf16, if_pos hfirst]
          exact (List.prefix_cons_inj d).mpr (ih htail hrest)

theorem takeUtf16_of_fits {room : Nat} {cs : List Char} (hfits : (cs.map lenUtf16).sum ≤ room) :
    takeUtf16 room cs = cs :=
  (isPrefix_takeUtf16_self room cs).eq_of_length_le
    (isPrefix_takeUtf16 List.prefix_rfl hfits).length_le

/-- A name that is not tagged gets the tag and as many of its characters as fit beside it,
and the result is tagged. -/
theorem taggedNickname_longest (current : Option String) (username : String) :
    let base := current.getD username
    ((startsWith base PREFIX = true ∨ startsWith base LEGACY_PREFIX = true) →
      taggedNickname current username = none) ∧
    (¬ (startsWith base PREFIX = true ∨ startsWith base LEGACY_PREFIX = true) →
      ∃ kept, taggedNickname current username = some (PREFIX ++ String.ofList kept) ∧
        kept <+: base.toList ∧
        encodeUtf16Count (PREFIX ++ String.ofList kept) ≤ NICK_LIMIT ∧
        (∀ longer, longer <+: base.toList →
          encodeUtf16Count PREFIX + encodeUtf16Count (String.ofList longer) ≤ NICK_LIMIT →
            longer.length ≤ kept.length) ∧
        (encodeUtf16Count (PREFIX ++ base) ≤ NICK_LIMIT →
          PREFIX ++ String.ofList kept = PREFIX ++ base) ∧
        ∀ username', taggedNickname (some (PREFIX ++ String.ofList kept)) username' = none) := by
  intro base
  have htagged : (startsWith base PREFIX || startsWith base LEGACY_PREFIX) = true ↔
      startsWith base PREFIX = true ∨ startsWith base LEGACY_PREFIX = true := by
    rw [Bool.or_eq_true]
  constructor
  · intro hstarts
    exact if_pos (htagged.mpr hstarts)
  · intro hstarts
    have hresult : taggedNickname current username = some (PREFIX ++ String.ofList
        (takeUtf16 (NICK_LIMIT - encodeUtf16Count PREFIX) base.toList)) :=
      if_neg fun hor => hstarts (htagged.mp hor)
    have hprefix : encodeUtf16Count PREFIX ≤ NICK_LIMIT := by decide
    refine ⟨_, hresult, isPrefix_takeUtf16_self _ _, taggedNickname_fits hresult, ?_, ?_,
      taggedNickname_idem hresult⟩
    · intro longer hlonger hfits
      rw [encodeUtf16Count_ofList] at hfits
      exact (isPrefix_takeUtf16 hlonger (by omega)).length_le
    · intro hfits
      rw [encodeUtf16Count_append] at hfits
      have hbase : (base.toList.map lenUtf16).sum ≤ NICK_LIMIT - encodeUtf16Count PREFIX := by
        unfold encodeUtf16Count at hfits hprefix ⊢
        omega
      rw [takeUtf16_of_fits hbase, String.ofList_toList]

/-! ## The calls, step by step -/

/-- Why a member cannot be renamed. -/
inductive RenameVerdict where
  | allowed
  | owner
  | aboveBot
deriving DecidableEq

/-- What Discord does with an edit; `lost` is one that is carried out and answered with
an error. -/
inductive EditOutcome where
  | applied
  | failed
  | lost
deriving DecidableEq

/-- What the task does next. -/
inductive Phase where
  | idle
  /-- `apply_nickname` has read the nickname and will put it on record. -/
  | fetched (member : TaggedMember) (nick : Option String) (nickname : String)
  /-- It is on record, and the edit goes out. -/
  | remembered (member : TaggedMember) (nick : Option String) (nickname : String)
  /-- The edit was answered with an error, and the record goes. -/
  | refused (member : TaggedMember)
  /-- `restore_nickname` has taken the record, and the edit goes out. -/
  | taken (member : TaggedMember) (previousNick : Option String)
deriving DecidableEq

structure State where
  /-- The nicknames at Discord. -/
  nicks : TaggedMember → Option String
  tags : LiveTags
  phase : Phase
  /-- Whom this process has tagged. -/
  tagged : List TaggedMember
  /-- Whom the sweep has still to restore; the loop starts after it. -/
  left : List TaggedMember
  /-- The members whose nickname is the one `apply_nickname` set, neither restored nor
  changed since, each with the nickname before. -/
  dirty : TaggedMember → Option (Option String)

inductive Act where
  /-- A room shows that the member is publishing; `answer` is what Discord says of
  them, if it finds them. -/
  | publish (member : TaggedMember) (answer : Option (String × RenameVerdict))
  /-- No room does any more. -/
  | unpublish (member : TaggedMember)
  /-- The sweep goes on with the next record. -/
  | sweep
  | remember (now : Timestamp)
  | edit (outcome : EditOutcome)
  | forget
  /-- The process stops and starts again. -/
  | restart
  /-- Somebody changes the nickname. -/
  | rename (member : TaggedMember) (nick : Option String)
deriving DecidableEq

namespace State

/-- A server where the bot has never been. -/
def fresh (nicks : TaggedMember → Option String) : State :=
  ⟨nicks, ∅, .idle, [], [], fun _ => none⟩

/-- The loop may take up a snapshot: the sweep is over and no call is under way. -/
def Ready (s : State) : Prop :=
  s.left = [] ∧ s.phase = .idle

instance (s : State) : Decidable s.Ready :=
  inferInstanceAs (Decidable (_ ∧ _))

/-- The start of `apply_nickname`. -/
def fetch (member : TaggedMember) (answer : Option (String × RenameVerdict)) (s : State) : Phase :=
  match answer with
  | some (username, .allowed) =>
      match taggedNickname (s.nicks member) username with
      | some nickname => .fetched member (s.nicks member) nickname
      | none => .idle
  | some (_, .owner) => .idle
  | some (_, .aboveBot) => .idle
  | none => .idle

def publish (member : TaggedMember) (answer : Option (String × RenameVerdict)) (s : State) :
    State :=
  if s.Ready ∧ member ∉ s.tagged then
    { s with tagged := member :: s.tagged, phase := s.fetch member answer }
  else
    s

/-- The start of `restore_nickname`: the record is deleted. -/
def take (member : TaggedMember) (s : State) : State :=
  let (tags, tag) := s.tags.forget member
  { s with
    tags := tags
    phase := match tag with
      | some tag => .taken member tag.previousNick
      | none => .idle }

def unpublish (member : TaggedMember) (s : State) : State :=
  if s.Ready ∧ member ∈ s.tagged then
    take member { s with tagged := s.tagged.erase member }
  else
    s

def sweep (s : State) : State :=
  match s.left with
  | [] => s
  | member :: left => if s.phase = .idle then take member { s with left := left } else s

def remember (now : Timestamp) (s : State) : State :=
  match s.phase with
  | .fetched member nick nickname =>
      { s with
        tags := s.tags.remember member nick now
        phase := .remembered member nick nickname }
  | _ => s

/-- An empty string is no nickname. -/
def nicknameOf (text : String) : Option String :=
  if text = "" then none else some text

/-- The nickname at Discord becomes `nick`. -/
def setNick (member : TaggedMember) (nick : Option String) (dirty : Option (Option String))
    (s : State) : State :=
  { s with
    nicks := Function.update s.nicks member nick
    dirty := Function.update s.dirty member dirty }

def edit (outcome : EditOutcome) (s : State) : State :=
  match s.phase with
  | .remembered member _ nickname =>
      let renamed := s.setNick member (nicknameOf nickname) (some (s.nicks member))
      match outcome with
      | .applied => { renamed with phase := .idle }
      | .failed => { s with phase := .refused member }
      | .lost => { renamed with phase := .refused member }
  | .taken member previousNick =>
      let renamed := s.setNick member (nicknameOf (previousNick.getD "")) none
      match outcome with
      | .applied => { renamed with phase := .idle }
      | .failed => { s with phase := .idle }
      | .lost => { renamed with phase := .idle }
  | _ => s

def forget (s : State) : State :=
  match s.phase with
  | .refused member => { s with tags := (s.tags.forget member).1, phase := .idle }
  | _ => s

/-- The table and the nicknames are what survives. -/
def restart (s : State) : State :=
  { s with phase := .idle, tagged := [], left := s.tags.all }

def rename (member : TaggedMember) (nick : Option String) (s : State) : State :=
  if s.nicks member = nick then s else s.setNick member nick none

def step (s : State) : Act → State
  | .publish member answer => s.publish member answer
  | .unpublish member => s.unpublish member
  | .sweep => s.sweep
  | .remember now => s.remember now
  | .edit outcome => s.edit outcome
  | .forget => s.forget
  | .restart => s.restart
  | .rename member nick => s.rename member nick

/-! ## The record of a dirty nickname -/

/-- Every dirty nickname has a record of the one before. -/
def Recorded (s : State) : Prop :=
  ∀ member before, s.dirty member = some before →
    ∃ tag, s.tags.lookup member = some tag ∧ tag.previousNick = before

/-- No record is deleted while its nickname is dirty, and a nickname is tagged as it
was fetched. -/
def Careful (s : State) : Act → Prop
  | .unpublish member => s.Ready → member ∈ s.tagged → s.dirty member = none
  | .sweep => ∀ member ∈ s.left.head?, s.phase = .idle → s.dirty member = none
  | .edit outcome =>
      match s.phase with
      | .remembered member nick _ => outcome ≠ .failed → s.nicks member = nick
      | _ => True
  | .forget =>
      match s.phase with
      | .refused member => s.dirty member = none
      | _ => True
  | .publish _ _ | .remember _ | .restart | .rename _ _ => True

/-- Where the records are, and what the task knows of the one it is about. -/
structure Inv (s : State) : Prop where
  rows : ∀ member tag, s.tags.lookup member = some tag → member ∈ s.tagged ∨ member ∈ s.left
  fetched : ∀ member nick nickname, s.phase = .fetched member nick nickname →
    s.tags.lookup member = none ∧ member ∈ s.tagged
  remembered : ∀ member nick nickname, s.phase = .remembered member nick nickname →
    ∃ tag, s.tags.lookup member = some tag ∧ tag.previousNick = nick

section Steps

variable {s : State} {member : TaggedMember}

/-! ### Tagging -/

theorem phase_fetch {answer : Option (String × RenameVerdict)} {m : TaggedMember}
    {nick : Option String} {nickname : String}
    (h : s.fetch member answer = .fetched m nick nickname) : m = member := by
  unfold fetch at h
  split at h
  · split at h
    · injection h with hmember
      exact hmember.symm
    · cases h
  · cases h
  · cases h
  · cases h

theorem phase_fetch_ne {answer : Option (String × RenameVerdict)} {m : TaggedMember}
    {nick : Option String} {nickname : String} :
    s.fetch member answer ≠ .remembered m nick nickname := by
  unfold fetch
  split
  · split
    · exact Phase.noConfusion
    · exact Phase.noConfusion
  · exact Phase.noConfusion
  · exact Phase.noConfusion
  · exact Phase.noConfusion

theorem Inv.publish (h : s.Inv) (answer : Option (String × RenameVerdict)) :
    (s.publish member answer).Inv := by
  unfold State.publish
  split
  · next hready =>
      obtain ⟨⟨hleft, -⟩, hnew⟩ := hready
      refine ⟨fun m tag hrow => ?_, fun m nick nickname hphase => ?_,
        fun m nick nickname hphase => ?_⟩
      · exact (h.rows m tag hrow).imp_left (List.mem_cons_of_mem member)
      · obtain rfl := phase_fetch hphase
        refine ⟨?_, List.mem_cons_self⟩
        -- a record would be that of somebody tagged, or left to the sweep
        cases hrow : s.tags.lookup m with
        | none => rfl
        | some tag =>
            rcases h.rows m tag hrow with htagged | hswept
            · exact absurd htagged hnew
            · rw [hleft] at hswept
              cases hswept
      · exact absurd hphase phase_fetch_ne
  · exact h

/-- Between the two writes of a call there is nothing to know. -/
theorem Inv.quiet {s' : State} (h : s.Inv)
    (hrows : ∀ m tag, s'.tags.lookup m = some tag → s.tags.lookup m = some tag)
    (htagged : s'.tagged = s.tagged) (hleft : s'.left = s.left)
    (hfetched : ∀ m nick nickname, s'.phase ≠ .fetched m nick nickname)
    (hremembered : ∀ m nick nickname, s'.phase ≠ .remembered m nick nickname) : s'.Inv where
  rows m tag hrow := by
    rw [htagged, hleft]
    exact h.rows m tag (hrows m tag hrow)
  fetched m nick nickname hphase := absurd hphase (hfetched m nick nickname)
  remembered m nick nickname hphase := absurd hphase (hremembered m nick nickname)

theorem Inv.remember (h : s.Inv) (now : Timestamp) : (s.remember now).Inv := by
  unfold State.remember
  cases hphase : s.phase with
  | fetched m nick nickname =>
      obtain ⟨hnone, htagged⟩ := h.fetched m nick nickname hphase
      have hlookup : ∀ m', (s.tags.remember m nick now).lookup m' =
          if m' = m then some ⟨nick, now⟩ else s.tags.lookup m' :=
        fun m' => LiveTags.lookup_remember nick now hnone
      refine ⟨fun m' tag hrow => ?_, fun _ _ _ heq => Phase.noConfusion heq,
        fun m' nick' _ heq => ?_⟩
      · rw [hlookup] at hrow
        split at hrow
        · next heq => exact .inl (heq ▸ htagged)
        · exact h.rows m' tag hrow
      · injection heq with hmember hnick
        subst hmember hnick
        exact ⟨⟨nick, now⟩, by rw [hlookup, if_pos rfl], rfl⟩
  | idle => exact h
  | remembered m nick nickname => exact h
  | refused m => exact h
  | taken m previousNick => exact h

/-- The answer of an edit changes neither the table nor who was tagged, and leaves a call
that is over or about to forget. -/
theorem edit_cases (s : State) (outcome : EditOutcome) :
    s.edit outcome = s ∨
      (s.edit outcome).tags = s.tags ∧ (s.edit outcome).tagged = s.tagged ∧
        (s.edit outcome).left = s.left ∧
        ((s.edit outcome).phase = .idle ∨ ∃ m, (s.edit outcome).phase = .refused m) := by
  unfold State.edit
  cases s.phase with
  | remembered m nick nickname =>
      cases outcome with
      | applied => exact .inr ⟨rfl, rfl, rfl, .inl rfl⟩
      | failed => exact .inr ⟨rfl, rfl, rfl, .inr ⟨m, rfl⟩⟩
      | lost => exact .inr ⟨rfl, rfl, rfl, .inr ⟨m, rfl⟩⟩
  | taken m previousNick =>
      cases outcome with
      | applied => exact .inr ⟨rfl, rfl, rfl, .inl rfl⟩
      | failed => exact .inr ⟨rfl, rfl, rfl, .inl rfl⟩
      | lost => exact .inr ⟨rfl, rfl, rfl, .inl rfl⟩
  | idle => exact .inl rfl
  | fetched m nick nickname => exact .inl rfl
  | refused m => exact .inl rfl

theorem Inv.edit (h : s.Inv) (outcome : EditOutcome) : (s.edit outcome).Inv := by
  rcases edit_cases s outcome with heq | ⟨htags, htagged, hleft, hidle | ⟨m, hrefused⟩⟩
  · rw [heq]
    exact h
  · apply h.quiet (fun m tag hrow => htags ▸ hrow) htagged hleft
    · intro m nick nickname
      rw [hidle]
      exact Phase.noConfusion
    · intro m nick nickname
      rw [hidle]
      exact Phase.noConfusion
  · apply h.quiet (fun m tag hrow => htags ▸ hrow) htagged hleft
    · intro m nick nickname
      rw [hrefused]
      exact Phase.noConfusion
    · intro m nick nickname
      rw [hrefused]
      exact Phase.noConfusion

/-! ### Restoring -/

/-- The record of the member goes, and no other one. -/
theorem lookup_take {m : TaggedMember} :
    (s.take member).tags.lookup m = if m = member then none else s.tags.lookup m :=
  LiveTags.lookup_forget

theorem phase_take_ne {m : TaggedMember} {nick : Option String} {nickname : String} :
    (s.take member).phase ≠ .fetched m nick nickname ∧
      (s.take member).phase ≠ .remembered m nick nickname := by
  unfold State.take LiveTags.forget
  dsimp only
  split
  · exact ⟨Phase.noConfusion, Phase.noConfusion⟩
  · exact ⟨Phase.noConfusion, Phase.noConfusion⟩

theorem Inv.take (hrows : ∀ m tag, s.tags.lookup m = some tag → m ≠ member →
    m ∈ s.tagged ∨ m ∈ s.left) : (s.take member).Inv where
  rows m tag hrow := by
    rw [lookup_take] at hrow
    split at hrow
    · cases hrow
    · next hne => exact hrows m tag hrow hne
  fetched _ _ _ hphase := absurd hphase phase_take_ne.1
  remembered _ _ _ hphase := absurd hphase phase_take_ne.2

theorem Inv.unpublish (h : s.Inv) : (s.unpublish member).Inv := by
  unfold State.unpublish
  split
  · refine Inv.take fun m tag hrow hne => ?_
    exact (h.rows m tag hrow).imp_left (List.mem_erase_of_ne hne).mpr
  · exact h

theorem Inv.sweep (h : s.Inv) : s.sweep.Inv := by
  unfold State.sweep
  cases hleft : s.left with
  | nil => exact h
  | cons member left =>
      dsimp only
      split
      · refine Inv.take fun m tag hrow hne => (h.rows m tag hrow).imp_right fun hmem => ?_
        rw [hleft] at hmem
        exact (List.mem_cons.mp hmem).resolve_left hne
      · exact h

theorem Inv.forget (h : s.Inv) : s.forget.Inv := by
  unfold State.forget
  cases hphase : s.phase with
  | refused member =>
      refine h.quiet (fun m tag hrow => ?_) rfl rfl (fun _ _ _ => Phase.noConfusion)
        fun _ _ _ => Phase.noConfusion
      rw [LiveTags.lookup_forget] at hrow
      split at hrow
      · cases hrow
      · exact hrow
  | idle => exact h
  | fetched m nick nickname => exact h
  | remembered m nick nickname => exact h
  | taken m previousNick => exact h

theorem inv_restart : s.restart.Inv where
  rows _ tag hrow := .inr (LiveTags.mem_all.mpr ⟨tag, hrow⟩)
  fetched _ _ _ hphase := Phase.noConfusion hphase
  remembered _ _ _ hphase := Phase.noConfusion hphase

theorem Inv.rename (h : s.Inv) (nick : Option String) : (s.rename member nick).Inv := by
  unfold State.rename
  split
  · exact h
  · exact ⟨h.rows, h.fetched, h.remembered⟩

theorem Inv.step (h : s.Inv) (act : Act) : (s.step act).Inv := by
  cases act with
  | publish member answer => exact h.publish answer
  | unpublish member => exact h.unpublish
  | sweep => exact h.sweep
  | remember now => exact h.remember now
  | edit outcome => exact h.edit outcome
  | forget => exact h.forget
  | restart => exact inv_restart
  | rename member nick => exact h.rename nick

/-! ### What is recorded -/

/-- Only the table and what is dirty matter. -/
theorem Recorded.congr {s' : State} (h : s.Recorded) (htags : s'.tags = s.tags)
    (hdirty : s'.dirty = s.dirty) : s'.Recorded := by
  intro m before hbefore
  rw [hdirty] at hbefore
  rw [htags]
  exact h m before hbefore

/-- A record may go exactly if its nickname is not dirty. -/
theorem recorded_erase_iff {s' : State} (h : s.Recorded) (hdirty : s'.dirty = s.dirty)
    (htags : ∀ m, s'.tags.lookup m = if m = member then none else s.tags.lookup m) :
    s'.Recorded ↔ s.dirty member = none := by
  constructor
  · intro hafter
    cases hbefore : s.dirty member with
    | none => rfl
    | some before =>
        obtain ⟨tag, htag, -⟩ := hafter member before (by rw [hdirty, hbefore])
        rw [htags, if_pos rfl] at htag
        cases htag
  · intro hclean m before hbefore
    rw [hdirty] at hbefore
    have hne : m ≠ member := by
      rintro rfl
      rw [hclean] at hbefore
      cases hbefore
    rw [htags, if_neg hne]
    exact h m before hbefore

theorem recorded_take_iff (h : s.Recorded) : (s.take member).Recorded ↔ s.dirty member = none :=
  recorded_erase_iff h rfl fun _ => lookup_take

/-- A new nickname that is dirty needs the record of the one before. -/
theorem recorded_setNick_iff (h : s.Recorded) (nick : Option String)
    (dirty : Option (Option String)) :
    (s.setNick member nick dirty).Recorded ↔ ∀ before, dirty = some before →
      ∃ tag, s.tags.lookup member = some tag ∧ tag.previousNick = before := by
  constructor
  · intro hafter before hbefore
    refine hafter member before ?_
    show Function.update s.dirty member dirty member = some before
    rw [Function.update_self, hbefore]
  · intro hrecord m before hbefore
    change Function.update s.dirty member dirty m = some before at hbefore
    by_cases hm : m = member
    · subst hm
      rw [Function.update_self] at hbefore
      exact hrecord before hbefore
    · rw [Function.update_of_ne hm] at hbefore
      exact h m before hbefore

theorem Recorded.remember (hinv : s.Inv) (h : s.Recorded) (now : Timestamp) :
    (s.remember now).Recorded := by
  unfold State.remember
  cases hphase : s.phase with
  | fetched m nick nickname =>
      obtain ⟨hnone, -⟩ := hinv.fetched m nick nickname hphase
      intro m' before hbefore
      obtain ⟨tag, htag, hprevious⟩ := h m' before hbefore
      refine ⟨tag, ?_, hprevious⟩
      show (s.tags.remember m nick now).lookup m' = some tag
      have hne : m' ≠ m := by
        rintro rfl
        rw [hnone] at htag
        cases htag
      rw [LiveTags.lookup_remember nick now hnone, if_neg hne, htag]
  | idle => exact h
  | remembered m nick nickname => exact h
  | refused m => exact h
  | taken m previousNick => exact h

/-- The tag that is put on finds on record the nickname that was fetched. -/
theorem recorded_edit_iff (hinv : s.Inv) (h : s.Recorded) (outcome : EditOutcome) :
    (s.edit outcome).Recorded ↔ s.Careful (.edit outcome) := by
  unfold State.edit Careful
  cases hphase : s.phase with
  | remembered m nick nickname =>
      dsimp only
      obtain ⟨tag, htag, hprevious⟩ := hinv.remembered m nick nickname hphase
      have hrenamed : (s.setNick m (nicknameOf nickname) (some (s.nicks m))).Recorded ↔
          s.nicks m = nick := by
        rw [recorded_setNick_iff h]
        constructor
        · intro hrecord
          obtain ⟨tag', htag', hprevious'⟩ := hrecord (s.nicks m) rfl
          rw [htag] at htag'
          obtain rfl := Option.some.inj htag'
          exact hprevious'.symm.trans hprevious
        · intro heq before hbefore
          exact ⟨tag, htag, hprevious.trans (heq.symm.trans (Option.some.inj hbefore))⟩
      cases outcome with
      | applied => exact hrenamed.trans (by simp)
      | failed => exact iff_of_true (h.congr rfl rfl) fun hne => absurd rfl hne
      | lost => exact hrenamed.trans (by simp)
  | taken m previousNick =>
      have hrestored : (s.setNick m (nicknameOf (previousNick.getD "")) none).Recorded :=
        (recorded_setNick_iff h _ _).mpr fun before hbefore => by cases hbefore
      cases outcome with
      | applied => exact iff_of_true (hrestored.congr rfl rfl) trivial
      | failed => exact iff_of_true (h.congr rfl rfl) trivial
      | lost => exact iff_of_true (hrestored.congr rfl rfl) trivial
  | idle => exact iff_of_true h trivial
  | fetched m nick nickname => exact iff_of_true h trivial
  | refused m => exact iff_of_true h trivial

/-- A step keeps every dirty nickname on record exactly if it is careful. -/
theorem recorded_step_iff (hinv : s.Inv) (h : s.Recorded) (act : Act) :
    (s.step act).Recorded ↔ s.Careful act := by
  cases act with
  | publish member answer =>
      refine iff_of_true ?_ trivial
      show (s.publish member answer).Recorded
      unfold State.publish
      split
      · exact h.congr rfl rfl
      · exact h
  | unpublish member =>
      show (s.unpublish member).Recorded ↔ (s.Ready → member ∈ s.tagged → s.dirty member = none)
      unfold State.unpublish
      split
      · next hacts =>
          refine (recorded_take_iff (h.congr rfl rfl)).trans ?_
          exact ⟨fun hclean _ _ => hclean, fun hclean => hclean hacts.1 hacts.2⟩
      · next hnot => exact iff_of_true h fun hready htagged => absurd ⟨hready, htagged⟩ hnot
  | sweep =>
      show s.sweep.Recorded ↔
        ∀ member ∈ s.left.head?, s.phase = .idle → s.dirty member = none
      unfold State.sweep
      cases s.left with
      | nil => exact iff_of_true h fun member hmem => by cases hmem
      | cons member left =>
          dsimp only
          split
          · next hidle =>
              refine (recorded_take_iff (h.congr rfl rfl)).trans ?_
              constructor
              · intro hclean m hmem _
                rw [← Option.some.inj hmem]
                exact hclean
              · intro hclean
                exact hclean member rfl hidle
          · next hbusy => exact iff_of_true h fun _ _ hidle => absurd hidle hbusy
  | remember now => exact iff_of_true (h.remember hinv now) trivial
  | edit outcome => exact recorded_edit_iff hinv h outcome
  | forget =>
      show s.forget.Recorded ↔ _
      unfold State.forget Careful
      cases hphase : s.phase with
      | refused member => exact recorded_erase_iff h rfl fun _ => LiveTags.lookup_forget
      | idle => exact iff_of_true h trivial
      | fetched m nick nickname => exact iff_of_true h trivial
      | remembered m nick nickname => exact iff_of_true h trivial
      | taken m previousNick => exact iff_of_true h trivial
  | restart => exact iff_of_true (h.congr rfl rfl) trivial
  | rename member nick =>
      refine iff_of_true ?_ trivial
      show (s.rename member nick).Recorded
      unfold State.rename
      split
      · exact h
      · exact (recorded_setNick_iff h _ _).mpr fun before hbefore => by cases hbefore

end Steps

theorem inv_fresh (nicks : TaggedMember → Option String) : (fresh nicks).Inv where
  rows member tag hrow := by
    rw [fresh, AList.lookup_empty] at hrow
    cases hrow
  fetched _ _ _ hphase := Phase.noConfusion hphase
  remembered _ _ _ hphase := Phase.noConfusion hphase

/-- Along a run every dirty nickname has a record of the one before, in every state,
exactly if every step of the run is careful. -/
theorem dirty_recorded_throughout_iff (nicks : TaggedMember → Option String) (acts : List Act) :
    Runs.Throughout step Recorded (fresh nicks) acts ↔
      Runs.EachStep step Careful (fresh nicks) acts :=
  Runs.throughout_iff_eachStep (fun _ act hinv => hinv.step act)
    (fun _ act hinv h => recorded_step_iff hinv h act) (inv_fresh nicks)
    fun _ _ hbefore => by cases hbefore

/-- The record is gone, and Discord does not take the tag off. -/
theorem failed_restore_leaves_tag :
    ¬ Runs.Throughout step Recorded (fresh fun _ => some "Ana")
      [.publish ⟨100, 30⟩ (some ("ana", .allowed)), .remember 1, .edit .applied,
        .unpublish ⟨100, 30⟩, .edit .failed] := by
  intro h
  have hend := h.2.2.2.2.2
  obtain ⟨tag, htag, -⟩ := hend ⟨100, 30⟩ (some "Ana") (by decide)
  exact Option.some_ne_none tag (htag.symm.trans (by decide))

end State

end Nicknames
end Bot
end Ldktela
