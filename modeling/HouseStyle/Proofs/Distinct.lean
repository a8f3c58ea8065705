import Mathlib.Data.List.Induction

namespace HouseStyle

variable {α β : Type} [DecidableEq β]

theorem eraseDups_append_singleton (items : List β) (item : β) :
    (items ++ [item]).eraseDups =
      if item ∈ items.eraseDups then items.eraseDups else items.eraseDups ++ [item] := by
  rw [List.eraseDups_append]
  by_cases seen : item ∈ items <;> simp [List.removeAll, List.eraseDups_cons, seen]

def firstSeen (read : α → Option β) (items : List α) (value : β) : Nat :=
  items.findIdx fun item => read item = some value

theorem firstSeen_lt {read : α → Option β} {items : List α} {value : β}
    (seen : value ∈ items.filterMap read) : firstSeen read items value < items.length := by
  obtain ⟨item, member, isValue⟩ := List.mem_filterMap.mp seen
  exact List.findIdx_lt_length_of_exists ⟨item, member, by simpa using isValue⟩

theorem firstSeen_append {read : α → Option β} {items : List α} {value : β}
    (seen : value ∈ items.filterMap read) (more : List α) :
    firstSeen read (items ++ more) value = firstSeen read items value := by
  rw [firstSeen, List.findIdx_append]
  exact if_pos (firstSeen_lt seen)

theorem firstSeen_append_singleton {read : α → Option β} {items : List α} {value : β}
    (unseen : value ∉ items.filterMap read) (item : α) :
    items.length ≤ firstSeen read (items ++ [item]) value := by
  have missing : items.findIdx (fun item => read item = some value) = items.length := by
    refine List.findIdx_eq_length_of_false fun other member => ?_
    exact decide_eq_false fun isValue => unseen (List.mem_filterMap.mpr ⟨other, member, isValue⟩)
  rw [firstSeen, List.findIdx_append, missing]
  simp

theorem eraseDups_filterMap_increasing (read : α → Option β) (items : List α) :
    (items.filterMap read).eraseDups.Pairwise fun first second =>
      firstSeen read items first < firstSeen read items second := by
  -- From the back: a value that comes last is kept only if it is new.
  induction items using List.reverseRecOn with
  | nil => simp
  | append_singleton items item ih =>
      have earlier : (items.filterMap read).eraseDups.Pairwise fun first second =>
          firstSeen read (items ++ [item]) first < firstSeen read (items ++ [item]) second := by
        refine ih.imp_of_mem fun {first second} isFirst isSecond before => ?_
        rw [List.mem_eraseDups] at isFirst isSecond
        rwa [firstSeen_append isFirst, firstSeen_append isSecond]
      rw [List.filterMap_append]
      cases isValue : read item with
      | none => simpa [isValue] using earlier
      | some value =>
          have reads : [item].filterMap read = [value] := by simp [isValue]
          rw [reads, eraseDups_append_singleton]
          split
          · exact earlier
          · rename_i new
            rw [List.mem_eraseDups] at new
            refine List.pairwise_append.mpr ⟨earlier, by simp, ?_⟩
            intro first isFirst last isLast
            obtain rfl := List.mem_singleton.mp isLast
            rw [List.mem_eraseDups] at isFirst
            rw [firstSeen_append isFirst]
            exact Nat.lt_of_lt_of_le (firstSeen_lt isFirst) (firstSeen_append_singleton new item)

theorem nodup_eraseDups (items : List β) : items.eraseDups.Nodup := by
  have increasing := eraseDups_filterMap_increasing some items
  rw [List.filterMap_some] at increasing
  refine increasing.imp fun {first second} before same => ?_
  rw [same] at before
  exact Nat.lt_irrefl _ before

end HouseStyle
