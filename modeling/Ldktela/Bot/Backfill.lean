import Ldktela.Bot.Incremental
import Ldktela.Lib.Paging

/-!
# The member backfill and the events next to it

`backfill_members` of `crates/bot/src/handler.rs` lists the members over REST, a page at a
time, and writes them one by one.  Meanwhile people join, change roles and leave at
Discord, each change is an event, and the events are handled in their order between any
two steps of the backfill.

A page says what was so when it was fetched.  `Timely` is the condition on one write:
either an event about the member is still to be handled, which then has the last word, or
the page still says what is so.  `converges_iff` says that these are exactly the writes
after which the replica is on its way to Discord's membership.
-/

namespace Ldktela
namespace Bot

open Discord
open Revoke
open Runs

namespace GuildChange

/-- What the change says of one member: the roles they have now, or that they left. -/
def member : GuildChange → Option (UInt64 × Option (List UInt64))
  | .memberJoin userId roles => some (userId, some roles)
  | .memberRoles userId roles => some (userId, some roles)
  | .memberLeave userId => some (userId, none)
  | _ => none

def About (userId : UInt64) (change : GuildChange) : Prop :=
  change.member.map Prod.fst = some userId

instance (userId : UInt64) (change : GuildChange) : Decidable (change.About userId) :=
  inferInstanceAs (Decidable (change.member.map Prod.fst = some userId))

/-- The roles of `userId` after the change. -/
def said (userId : UInt64) (roles : Option (List UInt64)) (change : GuildChange) :
    Option (List UInt64) :=
  match change.member with
  | none => roles
  | some (about, new) => if userId = about then new else roles

end GuildChange

namespace Backfill

/-- `const PAGE`. -/
def pageSize : Nat := 1000

def memberList (guild : Guild) : List Member :=
  guild.members.entries.map fun e => ⟨e.1, guild.id, e.2.roles⟩

/-- One page of the members the guild has now, by id. -/
def members (guild : Guild) (after : Option UInt64) : List Member :=
  Paging.page (fun member : Member => member.userId.toNat) pageSize (after.map UInt64.toNat)
    (memberList guild)

/-- The cursor after a page. -/
def lastId (page : List Member) : Option UInt64 :=
  page.getLast?.map fun member => member.userId

/-- Where `backfill_members` stands. -/
inductive Progress where
  | fetching (after : Option UInt64)
  /-- What is left of a page; the last page is a short one. -/
  | writing (rest : List Member) (after : Option UInt64) (short : Bool)
  | finished
deriving DecidableEq

structure State where
  guild : Guild
  app : AppState
  /-- The events that have not been handled. -/
  queue : List GuildChange
  progress : Progress

inductive Act where
  /-- A member joins, changes roles or leaves at Discord. -/
  | change (change : GuildChange)
  /-- The next event is handled. -/
  | event
  | fetch
  /-- The next member of the page is written, or the page is through. -/
  | write

namespace State

def fetch (s : State) : State :=
  match s.progress with
  | .fetching after =>
      match members s.guild after with
      | [] => { s with progress := .finished }
      | page =>
          { s with
            progress := .writing page (lastId page) (page.length < pageSize) }
  | _ => s

def write (s : State) : State :=
  match s.progress with
  | .writing [] after short =>
      { s with progress := if short then .finished else .fetching after }
  | .writing (member :: rest) after short =>
      { s with
        app := Handler.onReplica
          (Replica.upsertMember s.guild.id member.userId member.roles) s.app
        progress := .writing rest after short }
  | _ => s

def step (s : State) : Act → State
  | .change change =>
      if s.guild.possible change = true ∧ change.member.isSome = true then
        { s with guild := s.guild.apply change, queue := s.queue ++ [change] }
      else
        s
  | .event =>
      match s.queue with
      | [] => s
      | change :: queue => { s with app := deliver s.guild change s.app, queue := queue }
  | .fetch => s.fetch
  | .write => s.write

/-- `GUILD_CREATE` delivers the members that `keep` selects. -/
def truncated (keep : UInt64 → Bool) (guild : Guild) : Guild :=
  { guild with members := guild.members.retain fun userId _ => keep userId }

/-- `guild_create` has installed a snapshot that lacks members. -/
def created (guild : Guild) (keep : UInt64 → Bool) (app : AppState) : State where
  guild := guild
  app := Handler.onReplica (Replica.replaceGuild (guildData (truncated keep guild))) app
  queue := []
  progress := .fetching none

/-- The backfill and all events are done. -/
def Done (s : State) : Prop :=
  s.queue = [] ∧ s.progress = .finished

instance (s : State) : Decidable s.Done :=
  inferInstanceAs (Decidable (s.queue = [] ∧ s.progress = .finished))

/-- The roles of a member at Discord. -/
def current (s : State) (userId : UInt64) : Option (List UInt64) :=
  (s.guild.members.lookup userId).map fun member => member.roles

/-- The roles of a member in the replica. -/
def mirrored (s : State) (userId : UInt64) : Option (List UInt64) :=
  (s.app.replica.guilds.lookup s.guild.id).bind fun data => data.members.lookup userId

/-- The members of the replica and their roles are Discord's. -/
def Mirrors (s : State) : Prop :=
  ∀ userId, s.mirrored userId = s.current userId

end State

/-! ## What a member change does -/

section Change

variable {change : GuildChange} {userId : UInt64}

theorem said_of_about (h : change.About userId) (roles roles' : Option (List UInt64)) :
    change.said userId roles = change.said userId roles' := by
  unfold GuildChange.About at h
  unfold GuildChange.said
  cases hmember : change.member with
  | none => rw [hmember] at h; cases h
  | some said =>
      rw [hmember] at h
      have habout : userId = said.1 := (Option.some.inj h).symm
      exact (if_pos habout).trans (if_pos habout).symm

theorem said_of_not_about (h : ¬ change.About userId) (roles : Option (List UInt64)) :
    change.said userId roles = roles := by
  unfold GuildChange.About at h
  unfold GuildChange.said
  cases hmember : change.member with
  | none => rfl
  | some said =>
      rw [hmember] at h
      exact if_neg fun heq => h (congrArg some heq.symm)

/-- What a queue says of somebody it names does not depend on what was so before. -/
theorem foldl_said_of_about {queue : List GuildChange} (h : ∃ change ∈ queue, change.About userId)
    (roles roles' : Option (List UInt64)) :
    queue.foldl (GuildChange.said userId) roles = queue.foldl (GuildChange.said userId) roles' := by
  induction queue generalizing roles roles' with
  | nil =>
      obtain ⟨change, hmem, -⟩ := h
      cases hmem
  | cons change queue ih =>
      rw [List.foldl_cons, List.foldl_cons]
      by_cases hlater : ∃ change ∈ queue, change.About userId
      · exact ih hlater _ _
      · obtain ⟨change', hmem, habout⟩ := h
        cases hmem with
        | head => rw [said_of_about habout roles roles']
        | tail _ hmem => exact absurd ⟨change', hmem, habout⟩ hlater

theorem foldl_said_of_not_about {queue : List GuildChange}
    (h : ¬ ∃ change ∈ queue, change.About userId) (roles : Option (List UInt64)) :
    queue.foldl (GuildChange.said userId) roles = roles := by
  induction queue with
  | nil => rfl
  | cons change queue ih =>
      have hfirst : ¬ change.About userId := fun habout => h ⟨change, List.mem_cons_self, habout⟩
      rw [List.foldl_cons, said_of_not_about hfirst]
      exact ih fun ⟨change', hmem, habout⟩ => h ⟨change', List.mem_cons_of_mem _ hmem, habout⟩

theorem apply_id (guild : Guild) (change : GuildChange) : (guild.apply change).id = guild.id := by
  cases change <;> rfl

/-- The changes that are about a member. -/
theorem member_cases (hmember : change.member.isSome = true) :
    (∃ user roles, change = .memberJoin user roles) ∨
      (∃ user roles, change = .memberRoles user roles) ∨ ∃ user, change = .memberLeave user := by
  cases change with
  | memberJoin user roles => exact .inl ⟨user, roles, rfl⟩
  | memberRoles user roles => exact .inr (.inl ⟨user, roles, rfl⟩)
  | memberLeave user => exact .inr (.inr ⟨user, rfl⟩)
  | roleCreate id permissions => cases hmember
  | rolePermissions id permissions => cases hmember
  | roleDelete id => cases hmember
  | channelCreate id name kind overwrites => cases hmember
  | channelUpdate id name overwrites => cases hmember
  | channelDelete id => cases hmember
  | owner user => cases hmember

/-- A member change at Discord. -/
theorem members_apply (guild : Guild) (hmember : change.member.isSome = true) :
    ((guild.apply change).members.lookup userId).map (fun member => member.roles) =
      change.said userId ((guild.members.lookup userId).map fun member => member.roles) := by
  obtain ⟨user, roles, rfl⟩ | ⟨user, roles, rfl⟩ | ⟨user, rfl⟩ := member_cases hmember
  · simp only [Guild.apply, GuildChange.said, GuildChange.member, AList.lookup_insert_ite]
    split <;> rfl
  · simp only [Guild.apply, GuildChange.said, GuildChange.member, AList.lookup_insert_ite]
    split <;> rfl
  · simp only [Guild.apply, GuildChange.said, GuildChange.member, AList.lookup_erase_ite]
    split <;> rfl

/-- The roles of a member in one mirrored guild. -/
def rolesIn (r : Replica) (guildId userId : UInt64) : Option (List UInt64) :=
  (r.guilds.lookup guildId).bind fun data => data.members.lookup userId

theorem rolesIn_modifyGuild {r : Replica} {guildId : UInt64} (f : GuildData → GuildData)
    {g : Option (List UInt64) → Option (List UInt64)}
    (hg : ∀ data, (f data).members.lookup userId = g (data.members.lookup userId))
    (hknown : guildId ∈ r.guilds) :
    rolesIn (Replica.modifyGuild guildId f r) guildId userId = g (rolesIn r guildId userId) := by
  obtain ⟨data, hdata⟩ := Option.isSome_iff_exists.mp (AList.lookup_isSome.mpr hknown)
  simp [rolesIn, Replica.modifyGuild, AList.lookup_modify, hdata, hg]

theorem mem_modifyGuild {r : Replica} {guildId g : UInt64} (f : GuildData → GuildData) :
    g ∈ (Replica.modifyGuild guildId f r).guilds ↔ g ∈ r.guilds := by
  rw [← AList.lookup_isSome, ← AList.lookup_isSome, Replica.modifyGuild, AList.lookup_modify]
  split
  · rw [Option.isSome_map]
  · rfl

theorem rolesIn_upsertMember (userId : UInt64) {r : Replica} {guildId user : UInt64}
    (roles : List UInt64) (hknown : guildId ∈ r.guilds) :
    rolesIn (Replica.upsertMember guildId user roles r) guildId userId =
      if userId = user then some roles else rolesIn r guildId userId := by
  exact rolesIn_modifyGuild (g := fun before => if userId = user then some roles else before) _
    (fun data => AList.lookup_insert_ite _ _ _ _) hknown

theorem rolesIn_removeMember (userId : UInt64) {r : Replica} {guildId user : UInt64}
    (hknown : guildId ∈ r.guilds) :
    rolesIn (Replica.removeMember guildId user r) guildId userId =
      if userId = user then none else rolesIn r guildId userId := by
  exact rolesIn_modifyGuild (g := fun before => if userId = user then none else before) _
    (fun data => AList.lookup_erase_ite _ _ _) hknown

/-- The handler of a member change, sweep included. -/
theorem rolesIn_deliver (userId : UInt64) {guild : Guild} {app : AppState}
    (hmember : change.member.isSome = true) (hknown : guild.id ∈ app.replica.guilds) :
    guild.id ∈ (deliver guild change app).replica.guilds ∧
      rolesIn (deliver guild change app).replica guild.id userId =
        change.said userId (rolesIn app.replica guild.id userId) := by
  obtain ⟨user, roles, rfl⟩ | ⟨user, roles, rfl⟩ | ⟨user, rfl⟩ := member_cases hmember
  · exact ⟨(mem_modifyGuild _).mpr hknown, rolesIn_upsertMember userId roles hknown⟩
  · rw [deliver, Handler.guildMemberUpdate, (sweepGuild_spec _ _).1.replica_eq]
    exact ⟨(mem_modifyGuild _).mpr hknown, rolesIn_upsertMember userId roles hknown⟩
  · rw [deliver, Handler.guildMemberRemoval, (sweepGuild_spec _ _).1.replica_eq]
    exact ⟨(mem_modifyGuild _).mpr hknown, rolesIn_removeMember userId hknown⟩

end Change

/-! ## What a page lists -/

section Listing

variable {guild : Guild}

theorem mem_memberList {member : Member} :
    member ∈ memberList guild ↔
      ∃ known, guild.members.lookup member.userId = some known ∧
        member = ⟨member.userId, guild.id, known.roles⟩ := by
  unfold memberList
  rw [List.mem_map]
  constructor
  · rintro ⟨⟨id, known⟩, hmem, rfl⟩
    exact ⟨known, AList.mem_entries_iff.mp hmem, rfl⟩
  · rintro ⟨known, hlookup, heq⟩
    exact ⟨⟨member.userId, known⟩, AList.mem_entries_iff.mpr hlookup, heq.symm⟩

theorem memberList_injective {m m' : Member} (hm : m ∈ memberList guild)
    (hm' : m' ∈ memberList guild) (hid : m.userId.toNat = m'.userId.toNat) : m = m' := by
  obtain ⟨known, hknown, heq⟩ := mem_memberList.mp hm
  obtain ⟨known', hknown', heq'⟩ := mem_memberList.mp hm'
  have hsame : m.userId = m'.userId := UInt64.toNat_inj.mp hid
  rw [hsame, hknown'] at hknown
  rw [heq, heq', hsame, Option.some.inj hknown]

/-- Somebody past the cursor is on the page, or past a page that is full. -/
theorem listed_or_later {after : Option UInt64} {userId : UInt64} {known : Member}
    (hknown : guild.members.lookup userId = some known)
    (hpast : Paging.Past (after.map UInt64.toNat) userId.toNat) :
    (∃ member ∈ members guild after, member.userId = userId) ∨
      ((members guild after).length = pageSize ∧
        Paging.Past ((lastId (members guild after)).map UInt64.toNat) userId.toNat) := by
  have hlisted : (⟨userId, guild.id, known.roles⟩ : Member) ∈ memberList guild :=
    mem_memberList.mpr ⟨known, hknown, rfl⟩
  have hcases := Paging.mem_page_or_later (fun member : Member => member.userId.toNat) pageSize
    (fun m hm m' hm' => memberList_injective hm hm') hlisted hpast
  cases hcases with
  | inl hpage => exact .inl ⟨_, hpage, rfl⟩
  | inr hfull =>
      obtain ⟨hlength, hlater⟩ := hfull
      refine .inr ⟨hlength, ?_⟩
      unfold lastId
      cases hlast : (members guild after).getLast? with
      | none => trivial
      | some last => exact hlater last (List.mem_of_getLast? hlast)

end Listing

/-! ## On the way to Discord's membership -/

namespace State

variable {s : State}

/-- The backfill has still to list the member, or to write them. -/
def ToCome (userId : UInt64) (s : State) : Prop :=
  match s.progress with
  | .fetching after => Paging.Past (after.map UInt64.toNat) userId.toNat
  | .writing rest after short =>
      (∃ member ∈ rest, member.userId = userId) ∨
        (short = false ∧ Paging.Past (after.map UInt64.toNat) userId.toNat)
  | .finished => False

/-- The roles of a member once the events that wait have been handled. -/
def expected (s : State) (userId : UInt64) : Option (List UInt64) :=
  s.queue.foldl (GuildChange.said userId) (s.mirrored userId)

/-- What waits will make of each member what they are at Discord, unless they are missing
and the backfill has still to come to them. -/
def Converges (s : State) : Prop :=
  ∀ userId, s.expected userId = s.current userId ∨ (s.expected userId = none ∧ s.ToCome userId)

/-- A listed member is written only while an event about them is still to be handled, or
while they are in the guild with the roles the page lists. -/
def Timely (s : State) : Act → Prop
  | .write =>
      match s.progress with
      | .writing (member :: _) _ _ =>
          (∃ change ∈ s.queue, change.About member.userId) ∨
            s.current member.userId = some member.roles
      | _ => True
  | _ => True

instance (s : State) (act : Act) : Decidable (s.Timely act) :=
  match act with
  | .write =>
      match hprogress : s.progress with
      | .writing (member :: rest) after short =>
          decidable_of_iff ((∃ change ∈ s.queue, change.About member.userId) ∨
            s.current member.userId = some member.roles) (by simp [Timely, hprogress])
      | .writing [] after short => .isTrue (by simp [Timely, hprogress])
      | .fetching after => .isTrue (by simp [Timely, hprogress])
      | .finished => .isTrue (by simp [Timely, hprogress])
  | .change _ => .isTrue trivial
  | .event => .isTrue trivial
  | .fetch => .isTrue trivial

/-- The events that wait are about members, and the last one about a member says what is
so at Discord. -/
structure Inv (s : State) : Prop where
  known : s.guild.id ∈ s.app.replica.guilds
  members : ∀ change ∈ s.queue, change.member.isSome = true
  lastWord : ∀ userId, (∃ change ∈ s.queue, change.About userId) →
    s.expected userId = s.current userId

/-! ## What a step does to one member -/

section Steps

variable {change : GuildChange} {queue : List GuildChange} {userId : UInt64} {member : Member}
  {rest page : List Member} {after : Option UInt64} {short : Bool}

/-- A change at Discord says of the members what its event will say of the replica. -/
theorem change_spec (s : State) (userId : UInt64) (hmember : change.member.isSome = true) :
    let s' := { s with guild := s.guild.apply change, queue := s.queue ++ [change] }
    s'.current userId = change.said userId (s.current userId) ∧
      s'.expected userId = change.said userId (s.expected userId) := by
  constructor
  · exact members_apply s.guild hmember
  · simp only [expected, mirrored, List.foldl_append, List.foldl_cons, List.foldl_nil]
    rw [apply_id]

/-- Handling an event changes nothing of what is expected. -/
theorem event_spec (h : s.Inv) (userId : UInt64) (hqueue : s.queue = change :: queue) :
    let s' := { s with app := deliver s.guild change s.app, queue := queue }
    s.guild.id ∈ s'.app.replica.guilds ∧ s'.expected userId = s.expected userId := by
  have hmember : change.member.isSome = true :=
    h.members change (hqueue ▸ List.mem_cons_self)
  obtain ⟨hknown, hroles⟩ := rolesIn_deliver userId hmember h.known
  refine ⟨hknown, ?_⟩
  have hmirrored : rolesIn (deliver s.guild change s.app).replica s.guild.id userId =
      change.said userId (s.mirrored userId) := hroles
  simp only [expected, hqueue, List.foldl_cons, ← hmirrored]
  rfl

/-- Writing a member decides what is expected of them, unless an event waits. -/
theorem write_spec (h : s.Inv) (userId : UInt64) (member : Member) (progress : Progress) :
    let s' : State :=
      { s with
        app := Handler.onReplica
          (Replica.upsertMember s.guild.id member.userId member.roles) s.app
        progress := progress }
    s.guild.id ∈ s'.app.replica.guilds ∧
      s'.expected userId =
        if userId = member.userId ∧ ¬ ∃ change ∈ s.queue, change.About userId then
          some member.roles
        else s.expected userId := by
  refine ⟨(mem_modifyGuild _).mpr h.known, ?_⟩
  have hmirrored : rolesIn (Replica.upsertMember s.guild.id member.userId member.roles
      s.app.replica) s.guild.id userId =
        if userId = member.userId then some member.roles else s.mirrored userId :=
    rolesIn_upsertMember userId member.roles h.known
  by_cases habout : ∃ change ∈ s.queue, change.About userId
  · rw [if_neg fun hand => hand.2 habout]
    exact foldl_said_of_about habout _ _
  · have hexpected : s.expected userId = s.mirrored userId :=
      foldl_said_of_not_about habout _
    rw [hexpected]
    refine (foldl_said_of_not_about habout _).trans (hmirrored.trans ?_)
    by_cases hsame : userId = member.userId
    · rw [if_pos hsame, if_pos ⟨hsame, habout⟩]
    · rw [if_neg hsame, if_neg fun hand => hsame hand.1]

theorem fetch_eq (s : State) : ∃ progress, s.fetch = { s with progress := progress } := by
  unfold fetch
  split
  · split
    · exact ⟨_, rfl⟩
    · exact ⟨_, rfl⟩
  · exact ⟨s.progress, rfl⟩

theorem Inv.withProgress (h : s.Inv) (progress : Progress) :
    ({ s with progress := progress } : State).Inv :=
  ⟨h.known, h.members, h.lastWord⟩

theorem Inv.step (h : s.Inv) (act : Act) : (s.step act).Inv := by
  cases act with
  | change change =>
      simp only [State.step]
      split
      · next henabled =>
          have hspec := fun userId => s.change_spec userId henabled.2
          constructor
          · rw [apply_id]
            exact h.known
          · intro queued hmem
            cases List.mem_append.mp hmem with
            | inl hold => exact h.members queued hold
            | inr hnew => exact List.mem_singleton.mp hnew ▸ henabled.2
          · rintro userId ⟨queued, hmem, habout⟩
            obtain ⟨hcurrent, hexpected⟩ := hspec userId
            rw [hcurrent, hexpected]
            by_cases hlast : change.About userId
            · exact said_of_about hlast _ _
            · have hold : queued ∈ s.queue := by
                cases List.mem_append.mp hmem with
                | inl hold => exact hold
                | inr hnew => exact absurd (List.mem_singleton.mp hnew ▸ habout) hlast
              rw [h.lastWord userId ⟨queued, hold, habout⟩]
      · exact h
  | event =>
      simp only [State.step]
      split
      · exact h
      · next change queue hqueue =>
          have hspec := fun userId => event_spec h userId hqueue
          constructor
          · exact (hspec 0).1
          · intro queued hmem
            exact h.members queued (hqueue ▸ List.mem_cons_of_mem _ hmem)
          · rintro userId ⟨queued, hmem, habout⟩
            rw [(hspec userId).2]
            exact h.lastWord userId ⟨queued, hqueue ▸ List.mem_cons_of_mem _ hmem, habout⟩
  | fetch =>
      obtain ⟨progress, heq⟩ := s.fetch_eq
      rw [State.step, heq]
      exact h.withProgress progress
  | write =>
      simp only [State.step, write]
      split
      · exact h.withProgress _
      · next member rest after short hprogress =>
          have hspec := fun userId => write_spec h userId member (.writing rest after short)
          constructor
          · exact (hspec 0).1
          · exact h.members
          · intro userId habout
            rw [(hspec userId).2, if_neg fun hand => hand.2 habout]
            exact h.lastWord userId habout
      · exact h

/-- A page takes over whoever is still to be listed. -/
theorem toCome_fetch {userId : UInt64} (hcurrent : s.current userId ≠ none)
    (h : s.ToCome userId) : s.fetch.ToCome userId := by
  unfold fetch
  split
  · next after hprogress =>
      have hpast : Paging.Past (after.map UInt64.toNat) userId.toNat := by
        rw [ToCome, hprogress] at h
        exact h
      obtain ⟨known, hknown⟩ : ∃ known, s.guild.members.lookup userId = some known := by
        apply Option.ne_none_iff_exists'.mp
        intro hnone
        apply hcurrent
        rw [current, hnone]
        rfl
      have hcases := listed_or_later hknown hpast
      split
      · next hempty =>
          rw [hempty] at hcases
          cases hcases with
          | inl hlisted =>
              obtain ⟨member, hmem, -⟩ := hlisted
              cases hmem
          | inr hfull => exact absurd hfull.1 (by decide)
      · cases hcases with
        | inl hlisted => exact .inl hlisted
        | inr hfull =>
            have hlong : decide ((members s.guild after).length < pageSize) = false := by
              rw [hfull.1]
              decide
            exact .inr ⟨hlong, hfull.2⟩
  · exact h

theorem toCome_write_other {userId : UInt64} (hprogress : s.progress = .writing (member :: rest)
    after short) (hother : member.userId ≠ userId) (h : s.ToCome userId) :
    s.write.ToCome userId := by
  rw [ToCome, hprogress] at h
  unfold write
  rw [hprogress]
  cases h with
  | inl hlisted =>
      obtain ⟨listed, hmem, hid⟩ := hlisted
      cases hmem with
      | head => exact absurd hid hother
      | tail _ hmem => exact .inl ⟨listed, hmem, hid⟩
  | inr hlater => exact .inr hlater

theorem converges_write_iff (hinv : s.Inv) (h : s.Converges)
    (hprogress : s.progress = .writing (member :: rest) after short) :
    s.write.Converges ↔ s.Timely .write := by
  have hspec : ∀ userId, s.write.expected userId =
      if userId = member.userId ∧ ¬ ∃ change ∈ s.queue, change.About userId then
        some member.roles
      else s.expected userId := by
    intro userId
    unfold write
    rw [hprogress]
    exact (write_spec hinv userId member _).2
  have hcurrent : ∀ userId, s.write.current userId = s.current userId := by
    intro userId
    unfold write
    rw [hprogress]
    rfl
  simp only [Timely, hprogress]
  constructor
  · intro hafter
    by_cases habout : ∃ change ∈ s.queue, change.About member.userId
    · exact .inl habout
    · right
      have hwritten := hafter member.userId
      rw [hspec, hcurrent, if_pos ⟨rfl, habout⟩] at hwritten
      cases hwritten with
      | inl hsame => exact hsame.symm
      | inr hmissing => cases hmissing.1
  · intro htimely userId
    rw [hspec, hcurrent]
    by_cases hand : userId = member.userId ∧ ¬ ∃ change ∈ s.queue, change.About userId
    · rw [if_pos hand]
      obtain ⟨rfl, habout⟩ := hand
      exact .inl (htimely.resolve_left habout).symm
    · rw [if_neg hand]
      cases h userId with
      | inl hsame => exact .inl hsame
      | inr hmissing =>
          by_cases hsame : member.userId = userId
          · -- an event about them waits, and has the last word
            have habout : ∃ change ∈ s.queue, change.About userId :=
              not_not.mp fun hnone => hand ⟨hsame.symm, hnone⟩
            exact .inl (hinv.lastWord userId habout)
          · exact .inr ⟨hmissing.1, toCome_write_other hprogress hsame hmissing.2⟩

/-- Only the write of a member can lead away from Discord's membership, and it does
exactly when it is not timely. -/
theorem converges_step_iff (hinv : s.Inv) (h : s.Converges) (act : Act) :
    (s.step act).Converges ↔ s.Timely act := by
  cases act with
  | change change =>
      refine iff_of_true (fun userId => ?_) trivial
      simp only [State.step]
      split
      · next henabled =>
          obtain ⟨hcurrent, hexpected⟩ := s.change_spec userId henabled.2
          rw [hcurrent, hexpected]
          by_cases habout : change.About userId
          · exact .inl (said_of_about habout _ _)
          · rw [said_of_not_about habout, said_of_not_about habout]
            exact h userId
      · exact h userId
  | event =>
      refine iff_of_true (fun userId => ?_) trivial
      simp only [State.step]
      split
      · exact h userId
      · next change queue hqueue =>
          rw [(event_spec hinv userId hqueue).2]
          exact h userId
  | fetch =>
      refine iff_of_true (fun userId => ?_) trivial
      obtain ⟨progress, heq⟩ := s.fetch_eq
      have hexpected : s.fetch.expected userId = s.expected userId := by rw [heq]; rfl
      have hcurrent : s.fetch.current userId = s.current userId := by rw [heq]; rfl
      rw [State.step, hexpected, hcurrent]
      cases h userId with
      | inl hsame => exact .inl hsame
      | inr hmissing =>
          -- the new page lists every member that is there and is not behind the cursor
          by_cases hgone : s.current userId = none
          · exact .inl (hmissing.1.trans hgone.symm)
          · exact .inr ⟨hmissing.1, toCome_fetch hgone hmissing.2⟩
  | write =>
      cases hprogress : s.progress with
      | fetching after =>
          simp only [State.step, write, Timely, hprogress]
          exact iff_of_true h trivial
      | finished =>
          simp only [State.step, write, Timely, hprogress]
          exact iff_of_true h trivial
      | writing rest after short =>
          cases rest with
          -- the page is through: what was to come is behind it
          | nil =>
              simp only [State.step, write, Timely, hprogress]
              refine iff_of_true (fun userId => ?_) trivial
              cases h userId with
              | inl hsame => exact .inl hsame
              | inr hmissing =>
                  obtain ⟨hnone, hcome⟩ := hmissing
                  rw [ToCome, hprogress] at hcome
                  cases hcome with
                  | inl hlisted =>
                      obtain ⟨member, hmem, -⟩ := hlisted
                      cases hmem
                  | inr hlater =>
                      refine .inr ⟨hnone, ?_⟩
                      rw [hlater.1]
                      exact hlater.2
          | cons member rest => exact converges_write_iff hinv h hprogress

theorem inv_created (guild : Guild) (keep : UInt64 → Bool) (app : AppState) :
    (created guild keep app).Inv where
  known := (AList.mem_insert _).mpr (.inl rfl)
  members _ hmem := (List.not_mem_nil hmem).elim
  lastWord _ h := by
    obtain ⟨change, hmem, -⟩ := h
    cases hmem

/-- The snapshot is right about the members it has, and the backfill is to list all. -/
theorem converges_created (guild : Guild) (keep : UInt64 → Bool) (app : AppState) :
    (created guild keep app).Converges := by
  intro userId
  have hexpected : (created guild keep app).expected userId =
      ((guild.members.lookup userId).filter fun _ => keep userId).map
        fun member => member.roles := by
    have hinstalled : (created guild keep app).expected userId =
        (guildData (truncated keep guild)).members.lookup userId := by
      simp [expected, mirrored, created, Handler.onReplica, Replica.replaceGuild, guildData,
        truncated]
    rw [hinstalled, guildData_member, truncated, AList.lookup_retain]
  rw [hexpected]
  cases hkeep : keep userId with
  | true =>
      left
      rw [Option.filter_eq_self_of_forall fun member hmember => rfl]
      rfl
  | false =>
      refine .inr ⟨?_, trivial⟩
      cases guild.members.lookup userId with
      | none => rfl
      | some member => rfl

/-- As long as every write is timely, what waits leads to Discord's membership. -/
theorem converges_iff {guild : Guild} {keep : UInt64 → Bool} {app : AppState}
    {acts : List Act} :
    Throughout step Converges (created guild keep app) acts ↔
      EachStep step Timely (created guild keep app) acts :=
  throughout_iff_eachStep (fun _ act hinv => hinv.step act)
    (fun _ act hinv h => converges_step_iff hinv h act) (inv_created guild keep app)
    (converges_created guild keep app)

/-- When every member is written while the page is right about them, or while an event
about them waits, the replica ends with Discord's members and their roles. -/
theorem mirrors_of_timely {guild : Guild} {keep : UInt64 → Bool} {app : AppState}
    {acts : List Act} (h : EachStep step Timely (created guild keep app) acts)
    (hdone : (run step (created guild keep app) acts).Done) :
    (run step (created guild keep app) acts).Mirrors := by
  have hstep : ∀ (s : State) (act : Act), (s.Inv ∧ s.Converges) → s.Timely act →
      (s.step act).Inv ∧ (s.step act).Converges := by
    intro s act hs htimely
    exact ⟨hs.1.step act, (converges_step_iff hs.1 hs.2 act).mpr htimely⟩
  obtain ⟨-, hend⟩ := run_of_eachStep hstep
    ⟨inv_created guild keep app, converges_created guild keep app⟩ h
  obtain ⟨hqueue, hfinished⟩ := hdone
  intro userId
  have hexpected : (run step (created guild keep app) acts).expected userId =
      (run step (created guild keep app) acts).mirrored userId := by
    rw [expected, hqueue, List.foldl_nil]
  rw [← hexpected]
  cases hend userId with
  | inl hsame => exact hsame
  | inr hmissing =>
      have hcome := hmissing.2
      rw [ToCome, hfinished] at hcome
      exact hcome.elim

end Steps

/-- A guild of two, of whom `GUILD_CREATE` delivers one. -/
def oneMissing : State :=
  created World.twoMembers (fun userId => userId = 1) World.idleBot

/-- The missing member leaves after the page was fetched, and the event is handled after
the page. -/
theorem mirrors_of_timely_late_event :
    (run step oneMissing
      [.fetch, .change (.memberLeave 2), .write, .write, .event, .write]).Mirrors :=
  mirrors_of_timely (by decide) (by decide)

/-- The event is handled before the page, which then brings the member back. -/
theorem page_brings_member_back :
    ¬ ∀ guild keep app acts, (run step (created guild keep app) acts).Done →
      (run step (created guild keep app) acts).Mirrors := by
  intro hall
  have hmirrors := hall World.twoMembers (fun userId => userId = 1) World.idleBot
    [.fetch, .change (.memberLeave 2), .event, .write, .write, .write] (by decide) 2
  revert hmirrors
  decide

end State

end Backfill
end Bot
end Ldktela
