import Ldktela.Lib.Ancestry
import Mathlib.Data.List.DropRight

/-!
# The process tree that the audio capture excludes

`root_of_discord_tree` of `desktop/src-tauri/src/audio.rs`.  The capture takes the sound of
the whole system but one process tree, so that the voices of the call do not go out with the
screen.  `descends` follows any chain of listed processes, whatever their names;
`root_of_discord_tree` asks only whether the parent is a Discord process, and takes the first
process that passes.  `rootOfDiscordTree_isRoot_iff` says when that is the top of the tree.
-/

namespace Ldktela
namespace DiscordTree

/-- One entry of the snapshot. -/
structure Process where
  pid : Nat
  parent : Nat
  name : String
deriving DecidableEq

/-- Discord ships under four names. -/
def DISCORD_IMAGES : List String :=
  ["discord.exe", "discordptb.exe", "discordcanary.exe", "discorddevelopment.exe"]

/-- Upper and lower case are one, and so are blanks at the end and none. -/
def isDiscord (name : String) : Bool :=
  DISCORD_IMAGES.contains
    (String.ofList ((name.toList.map Char.toLower).rdropWhile (· = ' ')))

/-- The parent is outside Discord, or dead. -/
def parentOutside (discord : List Process) (candidate : Process) : Bool :=
  !discord.any fun other => other.pid = candidate.parent

def rootOfDiscordTree (processes : List Process) : Option Nat :=
  let discord := processes.filter fun p => isDiscord p.name
  -- in a cycle no parent is outside, and the first process is taken
  ((discord.find? (parentOutside discord)).or discord.head?).map Process.pid

/-! ## The tree -/

section Tree

variable (processes : List Process)

/-- A listed process that runs a Discord image. -/
def Discord (p : Process) : Prop :=
  p ∈ processes ∧ isDiscord p.name = true

/-- `parent` is the listed process that started `child`. -/
def ParentOf (parent child : Process) : Prop :=
  parent ∈ processes ∧ child ∈ processes ∧ child.parent = parent.pid

/-- Through any chain of listed processes. -/
def Descends (p ancestor : Process) : Prop :=
  Relation.TransGen (ParentOf processes) ancestor p

/-- The top of Discord's tree is excluded: there is an answer when some process is Discord,
it belongs to a Discord process that descends from no other, and what descends from it are
all the others whenever they all descend from one. -/
structure IsRoot (answer : Option Nat) : Prop where
  isSome_iff : answer.isSome ↔ ∃ p, Discord processes p
  top : ∀ pid, answer = some pid → ∃ p, p.pid = pid ∧ Discord processes p ∧
    ∀ q, Discord processes q → ¬ Descends processes p q
  covers : ∀ pid, answer = some pid → ∀ r, Discord processes r →
    (∀ q, Discord processes q → q = r ∨ Descends processes q r) →
    ∃ p, p.pid = pid ∧ ∀ q, Discord processes q → q = p ∨ Descends processes q p

end Tree

variable {processes : List Process}

/-- The parents of a listing with distinct pids that is ordered by age. -/
theorem acyclic_of_lt (h : ∀ p ∈ processes, p.parent < p.pid) :
    Ancestry.Acyclic (ParentOf processes) := by
  refine Ancestry.acyclic_of_rank Process.pid fun parent child hparent => ?_
  rw [← hparent.2.2]
  exact h child hparent.2.1

theorem mem_filter_isDiscord {p : Process} :
    p ∈ processes.filter (fun p => isDiscord p.name) ↔ Discord processes p :=
  List.mem_filter

theorem isSome_rootOfDiscordTree :
    (rootOfDiscordTree processes).isSome ↔ ∃ p, Discord processes p := by
  simp only [rootOfDiscordTree, Option.isSome_map, Option.isSome_or, Bool.or_eq_true,
    List.find?_isSome, List.isSome_head?]
  constructor
  · rintro (⟨p, hp, -⟩ | hne)
    · exact ⟨p, mem_filter_isDiscord.mp hp⟩
    · obtain ⟨p, hp⟩ := List.exists_mem_of_ne_nil _ hne
      exact ⟨p, mem_filter_isDiscord.mp hp⟩
  · rintro ⟨p, hp⟩
    exact .inr (List.ne_nil_of_mem (mem_filter_isDiscord.mpr hp))

/-- What the search asks of a process. -/
def candidate (processes : List Process) (p : Process) : Bool :=
  isDiscord p.name && parentOutside (processes.filter fun p => isDiscord p.name) p

/-- The top of the tree passes the search: a Discord parent would be above it. -/
theorem candidate_of_top {p : Process}
    (htop : Ancestry.Top (ParentOf processes) (Discord processes) p) :
    p ∈ processes ∧ candidate processes p = true := by
  refine ⟨htop.1.1, ?_⟩
  rw [candidate, htop.1.2, Bool.true_and, parentOutside, Bool.not_eq_true', List.any_eq_false]
  intro other hother hparent
  have hdiscord := mem_filter_isDiscord.mp hother
  have hlink : ParentOf processes other p :=
    ⟨hdiscord.1, htop.1.1, (of_decide_eq_true hparent).symm⟩
  exact htop.2 other hdiscord (.single hlink)

/-- Where there is a top, the search finds something and the first process is never the
answer by default. -/
theorem rootOfDiscordTree_eq
    (h : ∃ p, Ancestry.Top (ParentOf processes) (Discord processes) p) :
    rootOfDiscordTree processes = (processes.find? (candidate processes)).map Process.pid := by
  obtain ⟨top, htop⟩ := h
  have hsome : (processes.find? (candidate processes)).isSome :=
    List.find?_isSome.mpr ⟨top, candidate_of_top htop⟩
  have hfind : (processes.filter fun p => isDiscord p.name).find?
      (parentOutside (processes.filter fun p => isDiscord p.name)) =
        processes.find? (candidate processes) := by
    rw [List.find?_filter]
    refine congrArg (fun test => processes.find? test) (funext fun p => ?_)
    simp only [candidate, Bool.decide_and, Bool.decide_eq_true]
  rw [rootOfDiscordTree, hfind, Option.or_of_isSome hsome]

/-- All that is asked of an answer follows from the second part. -/
theorem isRoot_of_top (h : ∀ pid, rootOfDiscordTree processes = some pid →
      ∃ p, p.pid = pid ∧ Ancestry.Top (ParentOf processes) (Discord processes) p) :
    IsRoot processes (rootOfDiscordTree processes) where
  isSome_iff := isSome_rootOfDiscordTree
  top := h
  covers := by
    intro pid hpid r hr hbelow
    obtain ⟨p, hp, htop⟩ := h pid hpid
    obtain rfl : p = r := htop.eq_of_forall hr hbelow
    exact ⟨p, hp, hbelow⟩

/-- The answer is the top of Discord's tree exactly when every Discord process that passes
the search below another one is listed after a top. -/
theorem rootOfDiscordTree_isRoot_iff (hpids : (processes.map Process.pid).Nodup)
    (hacyclic : Ancestry.Acyclic (ParentOf processes)) :
    IsRoot processes (rootOfDiscordTree processes) ↔
      Ancestry.TopFirst (ParentOf processes) (Discord processes) (candidate processes)
        processes := by
  by_cases hsome : ∃ p, Discord processes p
  · have htop := Ancestry.exists_top hacyclic (fun p (hp : Discord processes p) => hp.1) hsome
    rw [← Ancestry.find?_top_iff (fun p => candidate_of_top) htop]
    have hroot := rootOfDiscordTree_eq htop
    constructor
    · intro h
      obtain ⟨pid, hpid⟩ := Option.isSome_iff_exists.mp (h.isSome_iff.mpr hsome)
      obtain ⟨p, hp, hptop⟩ := h.top pid hpid
      rw [hroot, Option.map_eq_some_iff] at hpid
      obtain ⟨q, hq, hqpid⟩ := hpid
      -- the pids are distinct, so the process found is the one the answer belongs to
      have hqmem := List.mem_of_find?_eq_some hq
      obtain rfl : q = p := List.inj_on_of_nodup_map hpids hqmem hptop.1.1 (hqpid.trans hp.symm)
      exact ⟨q, hq, hptop⟩
    · rintro ⟨p, hp, hptop⟩
      refine isRoot_of_top fun pid hpid => ?_
      rw [hroot, hp, Option.map_some] at hpid
      exact ⟨p, Option.some.inj hpid, hptop⟩
  · refine iff_of_true (isRoot_of_top fun pid hpid => ?_) fun before p after hl hp => ?_
    · exact absurd (isSome_rootOfDiscordTree.mp (Option.isSome_of_eq_some hpid)) hsome
    · have hmem : p ∈ processes := hl ▸ List.mem_append_right _ List.mem_cons_self
      exact absurd ⟨p, hmem, (Bool.and_eq_true_iff.mp hp).1⟩ hsome

/-- Discord updates itself: the new Discord is a child of the updater, which is a child of the
old Discord. -/
def updating : List Process :=
  [⟨1002, 1001, "Discord.exe"⟩, ⟨1001, 1000, "Update.exe"⟩, ⟨1000, 900, "Discord.exe"⟩]

theorem rootOfDiscordTree_isRoot_iff_updating :
    IsRoot updating.reverse (rootOfDiscordTree updating.reverse) ↔
      Ancestry.TopFirst (ParentOf updating.reverse) (Discord updating.reverse)
        (candidate updating.reverse) updating.reverse :=
  rootOfDiscordTree_isRoot_iff (by decide) (acyclic_of_lt (by decide))

/-- The child is listed first and its parent is not Discord, so the child is excluded. -/
theorem rootOfDiscordTree_below_updater :
    (updating.map Process.pid).Nodup ∧ Ancestry.Acyclic (ParentOf updating) ∧
      rootOfDiscordTree updating = some 1002 ∧
      ¬ IsRoot updating (rootOfDiscordTree updating) := by
  have hroot : rootOfDiscordTree updating = some 1002 := by decide
  refine ⟨by decide, acyclic_of_lt (by decide), hroot, fun h => ?_⟩
  obtain ⟨p, hpid, hp, htop⟩ := h.top 1002 hroot
  obtain rfl : p = ⟨1002, 1001, "Discord.exe"⟩ := by
    have hmem := hp.1
    simp only [updating, List.mem_cons, List.not_mem_nil, or_false] at hmem
    rcases hmem with rfl | rfl | rfl
    · rfl
    · cases hpid
    · cases hpid
  have hupdater : ParentOf updating ⟨1000, 900, "Discord.exe"⟩ ⟨1001, 1000, "Update.exe"⟩ :=
    ⟨by decide, by decide, rfl⟩
  have hchild : ParentOf updating ⟨1001, 1000, "Update.exe"⟩ ⟨1002, 1001, "Discord.exe"⟩ :=
    ⟨by decide, by decide, rfl⟩
  exact htop ⟨1000, 900, "Discord.exe"⟩ ⟨by decide, by decide⟩ (.tail (.single hupdater) hchild)

end DiscordTree
end Ldktela
