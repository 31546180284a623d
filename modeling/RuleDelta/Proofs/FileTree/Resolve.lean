import Mathlib.Data.List.Infix
import RuleDelta.FileTree.Basic

/-!
# Where paths lead

A path is followed through links until it leads to something that is no link, and no link is left
on the way to it.

* `FileTree.Named` says that a tree has each place once, and what its names are like;
* `FileTree.Real` says that no link is on the way to a place, and `real_of_resolve` that a path
  leads to such a place only.
-/

namespace RuleDelta

open Text

namespace FileTree

/-- A name on the way to something in a tree. -/
def HasName (t : FileTree) (name : List Char) : Prop :=
  ∃ node ∈ t.nodes, name ∈ node.1

/-- Something is at each place once, and no name is empty or holds a slash. -/
structure Named (t : FileTree) : Prop where
  once : (t.nodes.map Prod.fst).Nodup
  ne_nil : ¬t.HasName []
  noSlash : ∀ name, t.HasName name → '/' ∉ name

/-- The names that lead to a place are names of the tree, and none of them leads to a link. -/
structure Real (t : FileTree) (place : Place) : Prop where
  named : ∀ name ∈ place, t.HasName name
  unlinked : ∀ front, front <+: place → ∀ target, t.node? front ≠ some (.link target)

variable {t : FileTree} {here place : Place} {part : List Char} {node : FileNode}

theorem Named.node?_eq (ht : t.Named) (h : (place, node) ∈ t.nodes) (hplace : place ≠ []) :
    t.node? place = some node := by
  rw [node?, if_neg (by simpa using hplace)]
  obtain ⟨front, back, hnodes⟩ := List.append_of_mem h
  have hnodup := ht.once
  rw [hnodes, List.map_append, List.map_cons] at hnodup
  rw [hnodes, List.lookup_eq_some_iff]
  refine ⟨front, back, rfl, fun p hp => ?_⟩
  have hfront := (List.nodup_append.mp hnodup).2.2 p.1 (List.mem_map_of_mem hp) place
    List.mem_cons_self
  simpa using hfront.symm

theorem hasName_of_node? (h : t.node? place = some node) : ∀ name ∈ place, t.HasName name := by
  unfold node? at h
  split at h
  · rename_i htop
    rw [List.isEmpty_iff.mp htop]
    exact nofun
  · obtain ⟨front, back, hnodes, -⟩ := List.lookup_eq_some_iff.mp h
    exact fun name hname => ⟨(place, node), by simp [hnodes], hname⟩

theorem real_top (t : FileTree) : t.Real [] where
  named := nofun
  unlinked front hfront target := by
    rw [List.prefix_nil.mp hfront]
    exact nofun

theorem Real.of_prefix (h : t.Real place) (hfront : here <+: place) : t.Real here where
  named name hname := h.named name (hfront.subset hname)
  unlinked front hfront' := h.unlinked front (hfront'.trans hfront)

/-- Something that is no link can be stepped to. -/
theorem Real.step (h : t.Real here) (hnode : t.node? (here ++ [part]) = some node)
    (hlink : ∀ target, node ≠ .link target) : t.Real (here ++ [part]) where
  named := hasName_of_node? hnode
  unlinked front hfront target hfound := by
    rcases List.prefix_concat_iff.mp hfront with rfl | hfront
    · rw [hnode] at hfound
      exact hlink target (Option.some.inj hfound)
    · exact h.unlinked front hfront target hfound

/-- A link is followed from the top or from its directory. -/
theorem Real.start (h : t.Real here) (path : List Char) : t.Real (start here path) := by
  unfold FileTree.start
  split
  · exact real_top t
  · exact h

/-- **A walk ends where no link is on the way**, if it starts at such a place. -/
theorem real_of_walk {links : Nat} {parts : List (List Char)}
    (hhere : t.Real here) (h : t.walk false links here parts = .ok place) : t.Real place := by
  fun_induction t.walk false links here parts with
  | case1 =>
    obtain rfl := Except.ok.inj h
    exact hhere
  | case4 =>
    rename_i ih
    exact ih hhere h
  | case5 =>
    rename_i ih
    exact ih (hhere.of_prefix (List.dropLast_prefix _)) h
  | case8 =>
    rename_i ih
    exact ih (hhere.start _) h
  | case9 =>
    rename_i hlink hnode ih
    exact ih (hhere.step hnode hlink) h
  -- Nothing is missing behind a way that is not for a new file.
  | case11 => simp_all
  | case12 => simp_all
  | _ => cases h

/-- **A path leads to a place without links on the way.** -/
theorem real_of_resolve {path : List Char} (hhere : t.Real here)
    (h : t.resolve here path = .ok place) : t.Real place := by
  unfold resolve follow at h
  split at h
  · cases h
  · split at h
    · cases h
    · exact real_of_walk (hhere.start path) h

end FileTree

end RuleDelta
