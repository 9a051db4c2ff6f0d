import Mathlib.Data.List.Sort
import Ldktela.Lib.Keyed
import Ldktela.Protocol

/-!
# `live_tags`

`crates/db/src/repo/live_tags.rs`: the nickname a member had before it was tagged, by
guild and member.
-/

namespace Ldktela
namespace Db

open Protocol

/-- A member of a guild. -/
structure TaggedMember where
  discordGuildId : Snowflake
  discordUserId : Snowflake
deriving DecidableEq

structure LiveTag where
  /-- `none` means that the member had no nickname before. -/
  previousNick : Option String
  taggedAt : Timestamp
deriving DecidableEq

abbrev LiveTags := Table TaggedMember LiveTag

namespace LiveTags

/-- Records that a member was tagged; a record that is there stays as it is. -/
def remember (member : TaggedMember) (previousNick : Option String) (now : Timestamp)
    (t : LiveTags) : LiveTags :=
  if (t.lookup member).isSome then t else t.insert member ⟨previousNick, now⟩

/-- Takes the record of a member back. -/
def forget (member : TaggedMember) (t : LiveTags) : LiveTags × Option LiveTag :=
  (t.erase member, t.lookup member)

/-- Everyone still marked, the oldest record first. -/
def all (t : LiveTags) : List TaggedMember :=
  (t.entries.mergeSort fun a b => decide (a.2.taggedAt ≤ b.2.taggedAt)).map Sigma.fst

variable {t : LiveTags} {member m : TaggedMember}

theorem mem_all : m ∈ t.all ↔ ∃ tag, t.lookup m = some tag := by
  unfold all
  simp only [List.mem_map, List.mem_mergeSort]
  constructor
  · rintro ⟨⟨k, tag⟩, hmem, rfl⟩
    exact ⟨tag, AList.mem_entries_iff.mp hmem⟩
  · rintro ⟨tag, htag⟩
    exact ⟨⟨m, tag⟩, AList.mem_entries_iff.mpr htag, rfl⟩

theorem lookup_remember (previousNick : Option String) (now : Timestamp)
    (hnone : t.lookup member = none) :
    (t.remember member previousNick now).lookup m =
      if m = member then some ⟨previousNick, now⟩ else t.lookup m := by
  rw [remember, hnone, if_neg (by simp), AList.lookup_insert_ite]

theorem lookup_forget : (t.forget member).1.lookup m = if m = member then none else t.lookup m :=
  AList.lookup_erase_ite t member m

end LiveTags

end Db
end Ldktela
