import Ldktela.Domain.Discord
import Ldktela.Lib.Masks
import Ldktela.Lib.Unique

/-!
# The precedence of Discord's permissions

`resolve` of `crates/domain/src/discord.rs`, bit by bit.  `precedence` lists the rules in the
order in which Discord asks them: the first one that says something about a bit decides it.

Roles and overwrites come from hash maps and from appends, in any order.  `resolve_perm` says
that the order does not matter.
-/

namespace Ldktela
namespace Domain

open Masks

/-- Role ids are unique, and so is the overwrite of a target. -/
structure Distinct (guild : GuildRef) (channel : ChannelRef) : Prop where
  roles : (guild.roles.map RoleRef.id).Nodup
  overwrites : (channel.overwrites.map fun o => (o.kind, o.targetId)).Nodup

/-! ## The rules -/

def Overwrite.isEveryone (guild : GuildRef) (o : Overwrite) : Bool :=
  decide (o.kind = .role ∧ o.targetId = guild.id)

/-- The overwrite of a role the member holds, `@everyone` apart. -/
def Overwrite.isHeld (guild : GuildRef) (member : MemberRef) (o : Overwrite) : Bool :=
  decide (o.kind = .role ∧ o.targetId ≠ guild.id ∧ o.targetId ∈ member.roleIds)

def Overwrite.isOwn (member : MemberRef) (o : Overwrite) : Bool :=
  decide (o.kind = .member ∧ o.targetId = member.userId)

/-- `@everyone` or a role of the member has the bit. -/
def inUnion (guild : GuildRef) (member : MemberRef) (b : Nat) : Bool :=
  guild.roles.any fun role =>
    decide (role.id = guild.id ∨ role.id ∈ member.roleIds) && has role.permissions b

/-- What a rule says of a bit, if it says something. -/
structure Rule where
  applies : Bool
  grants : Bool

/-- The first rule that applies. -/
def firstRule : List Rule → Bool
  | [] => false
  | rule :: rules => if rule.applies then rule.grants else firstRule rules

/-- The rules for one bit, the strongest one first. -/
def precedence (guild : GuildRef) (member : MemberRef) (channel : ChannelRef) (b : Nat) :
    List Rule :=
  [⟨channel.overwrites.any fun o => o.isOwn member && has o.allow b, true⟩,
    ⟨channel.overwrites.any fun o => o.isOwn member && has o.deny b, false⟩,
    ⟨channel.overwrites.any fun o => o.isHeld guild member && has o.allow b, true⟩,
    ⟨channel.overwrites.any fun o => o.isHeld guild member && has o.deny b, false⟩,
    ⟨channel.overwrites.any fun o => o.isEveryone guild && has o.allow b, true⟩,
    ⟨channel.overwrites.any fun o => o.isEveryone guild && has o.deny b, false⟩,
    ⟨true, inUnion guild member b⟩]

/-! ## The stages of `resolve` -/

section Stages

variable {guild : GuildRef} {member : MemberRef} {channel : ChannelRef} {b : Nat}

theorem atMostOne_role (hroles : (guild.roles.map RoleRef.id).Nodup) (id : UInt64) :
    Unique.AtMostOne (fun role : RoleRef => decide (role.id = id)) guild.roles :=
  Unique.atMostOne_of_nodup hroles fun _ _ hr hr' =>
    (of_decide_eq_true hr).trans (of_decide_eq_true hr').symm

theorem atMostOne_overwrite
    (hoverwrites : (channel.overwrites.map fun o => (o.kind, o.targetId)).Nodup)
    (kind : OverwriteKind) (id : UInt64) :
    Unique.AtMostOne (fun o : Overwrite => decide (o.kind = kind ∧ o.targetId = id))
      channel.overwrites := by
  refine Unique.atMostOne_of_nodup hoverwrites fun o o' ho ho' => ?_
  obtain ⟨hkind, htarget⟩ := of_decide_eq_true ho
  obtain ⟨hkind', htarget'⟩ := of_decide_eq_true ho'
  rw [hkind, hkind', htarget, htarget']

/-- The permissions of the role with an id, none where no role has it. -/
def granted (guild : GuildRef) (id : UInt64) : UInt64 :=
  (guild.roles.find? fun role => decide (role.id = id)).elim 0 RoleRef.permissions

theorem basePermissions_eq :
    basePermissions guild member =
      member.roleIds.foldl (fun base id => base ||| granted guild id)
        (granted guild guild.id) := by
  unfold basePermissions granted
  dsimp only
  congr 1
  · funext base id
    cases guild.roles.find? fun role => decide (role.id = id) with
    | none => simp
    | some role => rfl
  · cases guild.roles.find? fun role => decide (role.id = guild.id) with
    | none => rfl
    | some role => rfl

theorem has_granted (hroles : (guild.roles.map RoleRef.id).Nodup) (id : UInt64) :
    has (granted guild id) b =
      guild.roles.any fun role => decide (role.id = id) && has role.permissions b := by
  rw [← Unique.any_find? (atMostOne_role hroles id), granted]
  cases guild.roles.find? fun role => decide (role.id = id) with
  | none => exact has_zero
  | some role => rfl

/-- A held id without a role adds nothing. -/
theorem has_basePermissions (hroles : (guild.roles.map RoleRef.id).Nodup) :
    has (basePermissions guild member) b = inUnion guild member b := by
  simp only [basePermissions_eq, has_foldl_or, has_granted hroles, inUnion]
  rw [Bool.eq_iff_iff]
  simp only [Bool.or_eq_true, List.any_eq_true, Bool.and_eq_true, decide_eq_true_eq]
  constructor
  · rintro (⟨role, hrole, heveryone, hbit⟩ | ⟨id, hheld, role, hrole, rfl, hbit⟩)
    · exact ⟨role, hrole, .inl heveryone, hbit⟩
    · exact ⟨role, hrole, .inr hheld, hbit⟩
  · rintro ⟨role, hrole, heveryone | hheld, hbit⟩
    · exact .inl ⟨role, hrole, heveryone, hbit⟩
    · exact .inr ⟨role.id, hheld, role, hrole, rfl, hbit⟩

/-- An overwrite that is looked up by its target revises the mask with its own allows and
denies. -/
theorem has_found {l : List Overwrite} {p : Overwrite → Bool} (honce : Unique.AtMostOne p l)
    (hb : b < 64) (base : UInt64) :
    has (match l.find? p with
        | some ow => Overwrite.apply base ow.allow ow.deny
        | none => base) b =
      ((l.any fun o => p o && has o.allow b) ||
        (!(l.any fun o => p o && has o.deny b) && has base b)) := by
  rw [← Unique.any_find? honce, ← Unique.any_find? honce]
  cases l.find? p with
  | none => simp
  | some ow => exact has_revised base ow.allow ow.deny hb

theorem has_applyEveryone
    (hoverwrites : (channel.overwrites.map fun o => (o.kind, o.targetId)).Nodup) (hb : b < 64)
    (base : UInt64) :
    has (applyEveryone guild channel base) b =
      ((channel.overwrites.any fun o => o.isEveryone guild && has o.allow b) ||
        (!(channel.overwrites.any fun o => o.isEveryone guild && has o.deny b) && has base b)) :=
  has_found (atMostOne_overwrite hoverwrites .role guild.id) hb base

/-- Their allows and their denies are united before they are applied. -/
theorem has_applyRoles (hb : b < 64) (base : UInt64) :
    has (applyRoles guild member channel base) b =
      ((channel.overwrites.any fun o => o.isHeld guild member && has o.allow b) ||
        (!(channel.overwrites.any fun o => o.isHeld guild member && has o.deny b) &&
          has base b)) := by
  rw [applyRoles, Overwrite.apply, has_revised _ _ _ hb, has_foldl_or, has_foldl_or, has_zero,
    Bool.false_or, Bool.false_or, List.any_filter, List.any_filter]
  rfl

theorem has_applyMember
    (hoverwrites : (channel.overwrites.map fun o => (o.kind, o.targetId)).Nodup) (hb : b < 64)
    (base : UInt64) :
    has (applyMember member channel base) b =
      ((channel.overwrites.any fun o => o.isOwn member && has o.allow b) ||
        (!(channel.overwrites.any fun o => o.isOwn member && has o.deny b) && has base b)) :=
  has_found (atMostOne_overwrite hoverwrites .member member.userId) hb base

end Stages

/-! ## Bit by bit -/

theorem has_all {b : Nat} (hb : b < 64) : has DiscordPermissions.all.bits b = true := by
  have hbits : ∀ b < 64, has DiscordPermissions.all.bits b = true := by decide
  exact hbits b hb

/-- The bit of ADMINISTRATOR. -/
def administratorBit : Nat := 3

theorem administrator_iff (m : UInt64) :
    m &&& DiscordPermissions.administrator = DiscordPermissions.administrator ↔
      has m administratorBit = true :=
  and_eq_iff (by decide) (by decide) m

/-- The member owns the guild or has ADMINISTRATOR. -/
def hasEverything (guild : GuildRef) (member : MemberRef) : Bool :=
  decide (member.userId = guild.ownerId) || inUnion guild member administratorBit

/-- A rule that grants and a rule that denies, before the others. -/
theorem firstRule_pair (allows denies : Bool) (rules : List Rule) :
    firstRule (⟨allows, true⟩ :: ⟨denies, false⟩ :: rules) =
      (allows || (!denies && firstRule rules)) := by
  cases allows <;> cases denies <;> rfl

/-- Discord's precedence. -/
theorem resolve_has {guild : GuildRef} {channel : ChannelRef} (hdistinct : Distinct guild channel)
    (member : MemberRef) {b : Nat} (hb : b < 64) :
    has (resolve guild member channel).bits b =
      if hasEverything guild member then true
      else firstRule (precedence guild member channel b) := by
  have hadmin := administrator_iff (basePermissions guild member)
  rw [has_basePermissions hdistinct.roles] at hadmin
  unfold resolve hasEverything
  by_cases howner : member.userId = guild.ownerId
  · simp only [howner, if_true, decide_true, Bool.true_or, has_all hb]
  · by_cases hall : inUnion guild member administratorBit = true
    · simp only [howner, if_false, hadmin.mpr hall, if_true, hall, Bool.or_true, has_all hb]
    · have hrules : firstRule (precedence guild member channel b) =
          has (applyMember member channel (applyRoles guild member channel
            (applyEveryone guild channel (basePermissions guild member)))) b := by
        rw [has_applyMember hdistinct.overwrites hb, has_applyRoles hb,
          has_applyEveryone hdistinct.overwrites hb, has_basePermissions hdistinct.roles,
          precedence, firstRule_pair, firstRule_pair, firstRule_pair]
        rfl
      simp only [howner, if_false, mt hadmin.mp hall, hall, decide_false, Bool.or_self,
        Bool.false_eq_true, hrules]

/-- The guild of `allow_on_one_role_beats_deny_on_another`. -/
def twoRoles : GuildRef where
  id := 100
  ownerId := 1
  roles := [⟨100, 0x100400⟩, ⟨200, 0⟩, ⟨300, 0⟩]

def twoRolesMember : MemberRef := ⟨2, [200, 300]⟩

/-- One role denies CONNECT and the other one allows it. -/
def twoOverwrites : ChannelRef := ⟨500, [⟨200, .role, 0, 0x100000⟩, ⟨300, .role, 0x100000, 0⟩]⟩

theorem twoRoles_distinct : Distinct twoRoles twoOverwrites := ⟨by decide, by decide⟩

theorem twoRoles_connect :
    has (resolve twoRoles twoRolesMember twoOverwrites).bits 20 =
      if hasEverything twoRoles twoRolesMember then true
      else firstRule (precedence twoRoles twoRolesMember twoOverwrites 20) :=
  resolve_has twoRoles_distinct twoRolesMember (by decide)

/-! ## The order of the lists -/

section Order

variable {guild : GuildRef} {member : MemberRef} {channel : ChannelRef}
  {roles : List RoleRef} {roleIds : List UInt64} {overwrites : List Overwrite}

theorem granted_perm (hnodup : (guild.roles.map RoleRef.id).Nodup)
    (hroles : guild.roles.Perm roles) (id : UInt64) :
    granted { guild with roles } id = granted guild id :=
  congrArg (fun role => role.elim 0 RoleRef.permissions)
    (Unique.find?_perm (atMostOne_role hnodup id) hroles)

theorem basePermissions_perm (hnodup : (guild.roles.map RoleRef.id).Nodup)
    (hroles : guild.roles.Perm roles) (hids : member.roleIds.Perm roleIds) :
    basePermissions { guild with roles } { member with roleIds } =
      basePermissions guild member := by
  rw [basePermissions_eq, basePermissions_eq, funext (granted_perm hnodup hroles)]
  exact foldl_or_perm (granted guild) hids _

theorem applyEveryone_perm
    (hnodup : (channel.overwrites.map fun o => (o.kind, o.targetId)).Nodup)
    (hoverwrites : channel.overwrites.Perm overwrites) (base : UInt64) :
    applyEveryone { guild with roles } { channel with overwrites } base =
      applyEveryone guild channel base := by
  unfold applyEveryone
  rw [Unique.find?_perm (atMostOne_overwrite hnodup .role guild.id) hoverwrites]

theorem applyRoles_perm (hids : member.roleIds.Perm roleIds)
    (hoverwrites : channel.overwrites.Perm overwrites) (base : UInt64) :
    applyRoles { guild with roles } { member with roleIds } { channel with overwrites } base =
      applyRoles guild member channel base := by
  have hheld : ∀ o : Overwrite, (o.kind = OverwriteKind.role ∧ o.targetId ≠ guild.id ∧
      o.targetId ∈ roleIds) ↔ (o.kind = OverwriteKind.role ∧ o.targetId ≠ guild.id ∧
      o.targetId ∈ member.roleIds) := fun o => by rw [hids.mem_iff]
  simp only [applyRoles, hheld]
  rw [foldl_or_perm Overwrite.allow (hoverwrites.filter _),
    foldl_or_perm Overwrite.deny (hoverwrites.filter _)]

theorem applyMember_perm
    (hnodup : (channel.overwrites.map fun o => (o.kind, o.targetId)).Nodup)
    (hoverwrites : channel.overwrites.Perm overwrites) (base : UInt64) :
    applyMember { member with roleIds } { channel with overwrites } base =
      applyMember member channel base := by
  unfold applyMember
  rw [Unique.find?_perm (atMostOne_overwrite hnodup .member member.userId) hoverwrites]

/-- `guild_data` lists the roles in the order of a hash map, and `upsert_role` appends. -/
theorem resolve_perm (hdistinct : Distinct guild channel) (hroles : guild.roles.Perm roles)
    (hids : member.roleIds.Perm roleIds) (hoverwrites : channel.overwrites.Perm overwrites) :
    (resolve { guild with roles } { member with roleIds } { channel with overwrites }).bits =
      (resolve guild member channel).bits := by
  simp only [resolve, basePermissions_perm hdistinct.roles hroles hids,
    applyEveryone_perm hdistinct.overwrites hoverwrites, applyRoles_perm hids hoverwrites,
    applyMember_perm hdistinct.overwrites hoverwrites]

/-- The other order of `allow_on_one_role_beats_deny_on_another`. -/
theorem twoRoles_reversed :
    (resolve { twoRoles with roles := [⟨300, 0⟩, ⟨100, 0x100400⟩, ⟨200, 0⟩] }
        { twoRolesMember with roleIds := [300, 200] }
        { twoOverwrites with
          overwrites := [⟨300, .role, 0x100000, 0⟩, ⟨200, .role, 0, 0x100000⟩] }).bits =
      (resolve twoRoles twoRolesMember twoOverwrites).bits :=
  resolve_perm twoRoles_distinct (by decide) (by decide) (by decide)

end Order

end Domain
end Ldktela
