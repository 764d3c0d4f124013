import Mathlib.Data.List.Destutter
import Mathlib.Data.List.Sort
import Mathlib.Data.String.Basic
import OrderDesk.Market.Role

/-!
# Keys of role sets

The key under which the markets of some roles are kept says which roles these are, and nothing else
about the list of them (`marketsKey_eq_iff`). No name of a role is empty or has a comma, so the
names can be read back from the key.

The names in a key are those of the list, sorted and without repetitions (`marketsKey_eq_sorted`).
-/

namespace OrderDesk

namespace Role

theorem name_injective {r r' : Role} (h : r.name.toList = r'.name.toList) : r = r' := by
  have hname := congrArg ofName? (String.toList_inj.1 h)
  rw [ofName?_name, ofName?_name] at hname
  exact Option.some.inj hname

theorem name_ne_nil (r : Role) : r.name.toList ≠ [] := by
  cases r <;> decide

theorem comma_not_mem_name (r : Role) : ',' ∉ r.name.toList := by
  cases r <;> decide

end Role

theorem distinctRoles_eq_iff {a b : List Role} :
    distinctRoles a = distinctRoles b ↔ ∀ r, r ∈ a ↔ r ∈ b := by
  constructor
  · intro h r
    rw [← mem_distinctRoles, h, mem_distinctRoles]
  · intro h
    exact List.filter_congr fun r _ => by simp [h r]

/-- The names of some roles, parted by commas. -/
def joinedNames (roles : List Role) : String :=
  ",".intercalate (roles.map Role.name)

theorem toList_joinedNames (roles : List Role) :
    (joinedNames roles).toList = [','].intercalate (roles.map fun r => r.name.toList) := by
  rw [joinedNames, String.toList_intercalate, List.map_map]
  rfl

theorem splitOn_joinedNames {roles : List Role} (h : roles ≠ []) :
    (joinedNames roles).toList.splitOn ',' = roles.map fun r => r.name.toList := by
  rw [toList_joinedNames]
  refine List.splitOn_intercalate ',' (fun name hname => ?_) (by simpa using h)
  obtain ⟨r, -, rfl⟩ := List.mem_map.1 hname
  exact r.comma_not_mem_name

/-- Between the commas of nothing there is one empty text, which is no name. -/
theorem joinedNames_ne_joinedNames_nil {roles : List Role} (h : roles ≠ []) :
    joinedNames roles ≠ joinedNames [] := by
  intro heq
  have hsplit := splitOn_joinedNames h
  rw [heq] at hsplit
  cases roles with
  | nil => exact h rfl
  | cons r roles => exact r.name_ne_nil (List.cons.inj hsplit).1.symm

theorem joinedNames_injective {a b : List Role} (h : joinedNames a = joinedNames b) : a = b := by
  by_cases ha : a = []
  · subst ha
    by_cases hb : b = []
    · exact hb.symm
    · exact absurd h.symm (joinedNames_ne_joinedNames_nil hb)
  · by_cases hb : b = []
    · subst hb
      exact absurd h (joinedNames_ne_joinedNames_nil ha)
    · have hnames := (splitOn_joinedNames ha).symm.trans (h ▸ splitOn_joinedNames hb)
      exact (List.map_inj_right fun _ _ => Role.name_injective).1 hnames

/-- Two lists of roles have one key exactly when they name the same roles. -/
theorem marketsKey_eq_iff {a b : List Role} :
    marketsKey a = marketsKey b ↔ ∀ r, r ∈ a ↔ r ∈ b := by
  rw [← distinctRoles_eq_iff]
  constructor
  · intro h
    exact joinedNames_injective ((String.append_right_inj _).1 h)
  · intro h
    rw [marketsKey, marketsKey, h]

/-! ## Sorted names -/

/-- The names of some roles as they sort; of neighbours that are the same, one stays. -/
def sortedNames (roles : List Role) : List String :=
  ((roles.map Role.name).mergeSort (· ≤ ·)).destutter (· ≠ ·)

theorem mem_sortedNames {name : String} {roles : List Role} :
    name ∈ sortedNames roles ↔ ∃ r ∈ roles, r.name = name := by
  have hsorted := List.pairwise_mergeSort' (· ≤ ·) (roles.map Role.name)
  rw [sortedNames, hsorted.destutter_eq_dedup, List.mem_dedup, List.mem_mergeSort, List.mem_map]

/-- Equal names are neighbours once the names are sorted, so none is left twice. -/
theorem pairwise_lt_sortedNames (roles : List Role) : (sortedNames roles).Pairwise (· < ·) := by
  have hsorted := List.pairwise_mergeSort' (· ≤ ·) (roles.map Role.name)
  rw [sortedNames, hsorted.destutter_eq_dedup]
  have hdedup := hsorted.sublist (List.dedup_sublist _)
  exact (hdedup.and (List.nodup_dedup _)).imp fun h => lt_of_le_of_ne h.1 h.2

theorem pairwise_lt_alphabetical : (Role.alphabetical.map Role.name).Pairwise (· < ·) := by
  decide

theorem map_name_distinctRoles (roles : List Role) :
    (distinctRoles roles).map Role.name = sortedNames roles := by
  have hdistinct : ((distinctRoles roles).map Role.name).Pairwise (· < ·) :=
    pairwise_lt_alphabetical.sublist (List.filter_sublist.map _)
  refine hdistinct.eq_of_mem_iff (pairwise_lt_sortedNames roles) fun name => ?_
  simp only [mem_sortedNames, List.mem_map, mem_distinctRoles]

theorem marketsKey_eq_sorted (roles : List Role) :
    marketsKey roles = "markets:" ++ ",".intercalate (sortedNames roles) := by
  rw [marketsKey, map_name_distinctRoles]

end OrderDesk
