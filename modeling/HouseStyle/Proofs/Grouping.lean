import HouseStyle.Proofs.Distinct
import HouseStyle.Report.Basic
import Mathlib.Algebra.GroupWithZero.Nat

namespace HouseStyle.Report

structure GroupsOf (findings : List Finding) (groups : List (Kind × List Finding)) : Prop where
  kinds : groups.map (·.1) = (findings.map (·.kind)).eraseDups
  members : ∀ group ∈ groups, group.2 = findings.filter (·.kind = group.1)
  together : (groups.flatMap (·.2)).Perm findings

/-! ## One finding -/

theorem map_fst_insertGrouped (finding : Finding) (groups : List (Kind × List Finding)) :
    (insertGrouped finding groups).map (·.1) =
      if finding.kind ∈ groups.map (·.1) then groups.map (·.1)
      else groups.map (·.1) ++ [finding.kind] := by
  induction groups with
  | nil => simp [insertGrouped]
  | cons group groups ih =>
      obtain ⟨kind, members⟩ := group
      by_cases same : kind = finding.kind
      · simp [insertGrouped, same]
      · simp only [insertGrouped, same, if_false, List.map_cons, ih, List.mem_cons,
          Ne.symm same, false_or]
        split <;> simp

theorem flatMap_insertGrouped (finding : Finding) (groups : List (Kind × List Finding)) :
    ((insertGrouped finding groups).flatMap (·.2)).Perm (groups.flatMap (·.2) ++ [finding]) := by
  induction groups with
  | nil => simp [insertGrouped]
  | cons group groups ih =>
      obtain ⟨kind, members⟩ := group
      by_cases same : kind = finding.kind
      · simp only [insertGrouped, same, if_true, List.flatMap_cons, List.append_assoc]
        exact List.perm_append_comm.append_left members
      · simp only [insertGrouped, same, if_false, List.flatMap_cons, List.append_assoc]
        exact ih.append_left members

theorem filter_append_other {findings : List Finding} {finding : Finding} {kind : Kind}
    (different : kind ≠ finding.kind) :
    (findings ++ [finding]).filter (·.kind = kind) = findings.filter (·.kind = kind) := by
  simp [Ne.symm different]

theorem members_insertGrouped {findings : List Finding} {finding : Finding}
    {groups : List (Kind × List Finding)} (distinct : (groups.map (·.1)).Nodup)
    (members : ∀ group ∈ groups, group.2 = findings.filter (·.kind = group.1))
    (complete : finding.kind ∉ groups.map (·.1) → findings.filter (·.kind = finding.kind) = []) :
    ∀ group ∈ insertGrouped finding groups,
      group.2 = (findings ++ [finding]).filter (·.kind = group.1) := by
  induction groups with
  | nil =>
      intro group member
      obtain rfl := List.mem_singleton.mp member
      simpa using complete (by simp)
  | cons first groups ih =>
      obtain ⟨kind, list⟩ := first
      rw [List.map_cons, List.nodup_cons] at distinct
      have list_eq : list = findings.filter (·.kind = kind) := members (kind, list) (by simp)
      by_cases same : kind = finding.kind
      · intro group member
        rw [insertGrouped, if_pos same, List.mem_cons] at member
        rcases member with rfl | member
        · simp [list_eq, same]
        · -- The kinds are distinct, so no later group takes the finding too.
          have different : group.1 ≠ finding.kind := by
            intro sameKind
            exact distinct.1 (List.mem_map.mpr ⟨group, member, sameKind.trans same.symm⟩)
          rw [filter_append_other different]
          exact members group (by simp [member])
      · intro group member
        rw [insertGrouped, if_neg same, List.mem_cons] at member
        rcases member with rfl | member
        · rw [filter_append_other same]
          exact list_eq
        · refine ih distinct.2 (fun group member => members group (by simp [member])) ?_ group member
          intro absent
          refine complete ?_
          simpa [Ne.symm same] using absent

/-! ## All findings -/

variable {findings : List Finding} {groups : List (Kind × List Finding)}

theorem GroupsOf.nodup_kinds (grouped : GroupsOf findings groups) : (groups.map (·.1)).Nodup := by
  rw [grouped.kinds]
  exact nodup_eraseDups _

theorem GroupsOf.mem_kinds_iff (grouped : GroupsOf findings groups) (kind : Kind) :
    kind ∈ groups.map (·.1) ↔ ∃ finding ∈ findings, finding.kind = kind := by
  rw [grouped.kinds, List.mem_eraseDups, List.mem_map]

theorem GroupsOf.insert (grouped : GroupsOf findings groups) (finding : Finding) :
    GroupsOf (findings ++ [finding]) (insertGrouped finding groups) where
  kinds := by
    rw [map_fst_insertGrouped, grouped.kinds, List.map_append, List.map_singleton,
      eraseDups_append_singleton]
  members := by
    refine members_insertGrouped grouped.nodup_kinds grouped.members ?_
    rw [grouped.mem_kinds_iff]
    intro absent
    rw [List.filter_eq_nil_iff]
    intro other member
    simp only [decide_eq_true_eq]
    exact fun same => absent ⟨other, member, same⟩
  together := (flatMap_insertGrouped finding groups).trans (grouped.together.append_right _)

theorem groupsOf_grouped (report : Report) : GroupsOf report.findings report.grouped := by
  suffices onwards : ∀ (findings before : List Finding) (groups : List (Kind × List Finding)),
      GroupsOf before groups → GroupsOf (before ++ findings)
        (findings.foldl (fun groups finding => insertGrouped finding groups) groups) from
    onwards report.findings [] [] ⟨rfl, by simp, by simp⟩
  intro findings
  induction findings with
  | nil =>
      intro before groups grouped
      simpa using grouped
  | cons finding findings ih =>
      intro before groups grouped
      simpa using ih _ _ (grouped.insert finding)

/-! ## A stable partition -/

theorem GroupsOf.kinds_increasing (grouped : GroupsOf findings groups) :
    (groups.map (·.1)).Pairwise fun first second =>
      findings.findIdx (·.kind = first) < findings.findIdx (·.kind = second) := by
  have place (kind : Kind) :
      firstSeen (fun finding : Finding => some finding.kind) findings kind =
        findings.findIdx (·.kind = kind) := by
    simp only [firstSeen, Option.some.injEq]
  have increasing := eraseDups_filterMap_increasing (fun finding => some finding.kind) findings
  rw [grouped.kinds]
  simpa only [List.filterMap_eq_map', place] using increasing

theorem GroupsOf.ne_nil (grouped : GroupsOf findings groups) {group : Kind × List Finding}
    (isGroup : group ∈ groups) : group.2 ≠ [] := by
  obtain ⟨finding, member, sameKind⟩ :=
    (grouped.mem_kinds_iff group.1).mp (List.mem_map_of_mem isGroup)
  rw [grouped.members group isGroup]
  exact List.ne_nil_of_mem (List.mem_filter.mpr ⟨member, decide_eq_true sameKind⟩)

theorem GroupsOf.sum_length (grouped : GroupsOf findings groups) :
    (groups.map (·.2.length)).sum = findings.length := by
  rw [← grouped.together.length_eq, List.length_flatMap]

/-- Grouping is a stable partition. The kinds of the groups are those that occur, each once and in the
order of their first findings. A group holds the findings of its kind in the order in which they were
made, at least one, and the groups together hold every finding exactly once. -/
theorem grouped_stablePartition (report : Report) :
    (report.grouped.map (·.1)).Nodup ∧
    (∀ kind, kind ∈ report.grouped.map (·.1) ↔ ∃ finding ∈ report.findings, finding.kind = kind) ∧
    (report.grouped.map (·.1)).Pairwise (fun first second =>
      report.findings.findIdx (·.kind = first) < report.findings.findIdx (·.kind = second)) ∧
    (∀ group ∈ report.grouped, group.2 = report.ofKind group.1 ∧ group.2 ≠ [] ∧
      group.2.Sublist report.findings) ∧
    (report.grouped.flatMap (·.2)).Perm report.findings ∧
    (report.grouped.map (·.2.length)).sum = report.findings.length := by
  have grouped := groupsOf_grouped report
  refine ⟨grouped.nodup_kinds, grouped.mem_kinds_iff, grouped.kinds_increasing,
    fun group isGroup => ?_, grouped.together, grouped.sum_length⟩
  have members := grouped.members group isGroup
  refine ⟨members, grouped.ne_nil isGroup, ?_⟩
  rw [members]
  exact List.filter_sublist

end HouseStyle.Report
