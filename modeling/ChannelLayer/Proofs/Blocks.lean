import ChannelLayer.Chain.Setup
import ChannelLayer.Proofs.Orders

/-!
# How far blocks take a host

`Host.Catches target` is the loop that produces blocks while the host is below `target`: one block a turn, the
test before each. A block raises the block number, up to the last one, and never the revision, by which heights
order first. So the loop ends exactly where the target is of no later revision than the host.

* `Host.catches_iff`: what the loop ends in is what `Host.advanceUpTo?` gives.
* `Host.catches_up_iff`: the loop ends, at or past the target, exactly for a target of no later revision.
-/

set_option autoImplicit false

namespace ChannelLayer

namespace Height

theorem not_lt {a b : Height} : ¬ a < b ↔ b ≤ a := by
  show ¬ (a.revision < b.revision ∨ a.revision = b.revision ∧ a.block < b.block) ↔
    (b.revision < a.revision ∨ b.revision = a.revision ∧ b.block ≤ a.block)
  simp only [UInt64.lt_iff_toNat_lt, UInt64.le_iff_toNat_le, ← UInt64.toNat_inj]
  omega

theorem revision_le_of_le {a b : Height} (h : a ≤ b) : a.revision ≤ b.revision := by
  rcases h with hlt | ⟨heq, -⟩
  · exact UInt64.le_of_lt hlt
  · exact heq ▸ UInt64.le_refl _

/-- Below another block, the number is not the last one yet. -/
theorem block_ne_last {h : Height} {n : UInt64} (hlt : h.block.toNat < n.toNat) : h.block ≠ lastBlock := by
  intro hlast
  have hn := n.toNat_lt
  rw [hlast] at hlt
  simp only [lastBlock, UInt64.size, UInt64.toNat_ofNat'] at hlt
  omega

end Height

namespace Host

variable {h h' : Host} {target : Height}

theorem revision_advanceBlocks (h : Host) (n : Nat) :
    (h.advanceBlocks n).height.revision = h.height.revision := by
  induction n generalizing h with
  | zero => rfl
  | succ n ih => exact ih h.advanceBlock

/-- The loop that produces blocks while the host is below `target`, from its host to the one it ends with. -/
inductive Catches (target : Height) : Host → Host → Prop
  | done {h : Host} : ¬ h.height < target → Catches target h h
  | block {h h' : Host} : h.height < target → Catches target h.advanceBlock h' → Catches target h h'

namespace Catches

theorem reached (hloop : Catches target h h') : target ≤ h'.height := by
  induction hloop with
  | done hnot => exact Height.not_lt.1 hnot
  | block _ _ ih => exact ih

/-- What the loop ends with is the host some blocks later. -/
theorem exists_blocks (hloop : Catches target h h') : ∃ n, h' = h.advanceBlocks n := by
  induction hloop with
  | done _ => exact ⟨0, rfl⟩
  | block _ _ ih =>
    obtain ⟨n, hn⟩ := ih
    exact ⟨n + 1, hn⟩

theorem unique {h₁ h₂ : Host} (hloop : Catches target h h₁) (hloop' : Catches target h h₂) : h₁ = h₂ := by
  induction hloop with
  | done hnot =>
    cases hloop' with
    | done _ => rfl
    | block hlt _ => exact absurd hlt hnot
  | block hlt _ ih =>
    cases hloop' with
    | done hnot => exact absurd hlt hnot
    | block _ hrest => exact ih hrest

/-- Within its revision a host gets as far as any block number, one number a block. -/
theorem of_revision (hrevision : h.height.revision = target.revision) :
    Catches target h (h.advanceBlocks (target.block.toNat - h.height.block.toNat)) := by
  -- the distance left is what each turn of the loop makes smaller, as long as the target is ahead
  induction hleft : target.block.toNat - h.height.block.toNat generalizing h with
  | zero =>
    have hreached : target ≤ h.height := .inr ⟨hrevision.symm, by rw [UInt64.le_iff_toNat_le]; omega⟩
    exact .done (Height.not_lt.2 hreached)
  | succ n ih =>
    have hlt : h.height.block.toNat < target.block.toNat := by omega
    have hnext : h.advanceBlock.height.block.toNat = h.height.block.toNat + 1 :=
      Height.toNat_block_next (Height.block_ne_last hlt)
    refine .block (.inr ⟨hrevision, UInt64.lt_iff_toNat_lt.2 hlt⟩) (ih (h := h.advanceBlock) hrevision ?_)
    omega

end Catches

theorem revision_le_of_blocks {n : Nat} (hn : target ≤ (h.advanceBlocks n).height) :
    target.revision ≤ h.height.revision := by
  have hle := Height.revision_le_of_le hn
  rwa [revision_advanceBlocks] at hle

theorem Catches.revision_le (hloop : Catches target h h') : target.revision ≤ h.height.revision := by
  obtain ⟨n, rfl⟩ := hloop.exists_blocks
  exact revision_le_of_blocks hloop.reached

theorem catches_of_advanceUpTo? (hsome : h.advanceUpTo? target = some h') : Catches target h h' := by
  unfold advanceUpTo? blocksUpTo? at hsome
  split at hsome
  · rename_i hreached
    obtain rfl := Option.some.inj hsome
    exact .done (Height.not_lt.2 hreached)
  · split at hsome
    · rename_i hrevision
      obtain rfl := Option.some.inj hsome
      exact .of_revision hrevision
    · cases hsome

theorem exists_advanceUpTo? (hle : target.revision ≤ h.height.revision) :
    ∃ h', h.advanceUpTo? target = some h' := by
  unfold advanceUpTo? blocksUpTo?
  by_cases hreached : target ≤ h.height
  · exact ⟨_, by rw [if_pos hreached, Option.map_some]⟩
  · have hnot : ¬ target.revision < h.height.revision := fun hlt => hreached (.inl hlt)
    have hrevision : h.height.revision = target.revision := UInt64.le_antisymm (UInt64.not_lt.1 hnot) hle
    exact ⟨_, by rw [if_neg hreached, if_pos hrevision, Option.map_some]⟩

/-- The loop ends with what `advanceUpTo?` gives, and ends where that gives something. -/
theorem catches_iff : Catches target h h' ↔ h.advanceUpTo? target = some h' := by
  refine ⟨fun hloop => ?_, catches_of_advanceUpTo?⟩
  obtain ⟨h₁, hsome⟩ := exists_advanceUpTo? hloop.revision_le
  rw [hsome, hloop.unique (catches_of_advanceUpTo? hsome)]

theorem exists_catches (hle : target.revision ≤ h.height.revision) : ∃ h', Catches target h h' :=
  (exists_advanceUpTo? hle).imp fun _ => catches_of_advanceUpTo?

/-- Some number of blocks takes a host to a target, and the loop that goes there ends, exactly when the target
is of no later revision than the host. -/
theorem catches_up_iff (h : Host) (target : Height) :
    ((∃ n, ¬ (h.advanceBlocks n).height < target) ↔ target.revision ≤ h.height.revision) ∧
    ((∃ h', Catches target h h' ∧ target ≤ h'.height) ↔ target.revision ≤ h.height.revision) := by
  refine ⟨⟨?_, fun hle => ?_⟩, ⟨?_, fun hle => ?_⟩⟩
  · rintro ⟨n, hn⟩
    exact revision_le_of_blocks (Height.not_lt.1 hn)
  · obtain ⟨_, hloop⟩ := exists_catches hle
    obtain ⟨n, rfl⟩ := hloop.exists_blocks
    exact ⟨n, Height.not_lt.2 hloop.reached⟩
  · rintro ⟨h', hloop, -⟩
    exact hloop.revision_le
  · obtain ⟨h', hloop⟩ := exists_catches hle
    exact ⟨h', hloop, hloop.reached⟩

/-- A host at the last block and the last moment is in its next block what it was, and never in the next
revision. -/
theorem stands_before_next_revision :
    let h : Host := { height := ⟨0, Height.lastBlock⟩, time := ⟨UInt64.ofNat (UInt64.size - 1)⟩ }
    (∀ n, h.advanceBlocks n = h) ∧ h.height < ⟨1, 1⟩ ∧ ¬ ∃ h', Catches ⟨1, 1⟩ h h' := by
  intro h
  have hstands : h.advanceBlock = h := by decide +kernel
  refine ⟨fun n => ?_, by decide, ?_⟩
  · induction n with
    | zero => rfl
    | succ n ih => rw [advanceBlocks, hstands, ih]
  · rintro ⟨h', hloop⟩
    exact absurd hloop.revision_le (by decide)

end Host

end ChannelLayer
