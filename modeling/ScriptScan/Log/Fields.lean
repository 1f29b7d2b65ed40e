/-! Named values of an event, in the order of their names and each name once. -/
namespace ScriptScan

abbrev Fields := List (String × String)

namespace Fields

/-- Sets `key`; a value it had before is replaced. -/
def set (key value : String) : Fields → Fields
  | [] => [(key, value)]
  | (k, v) :: rest =>
    if key < k then (key, value) :: (k, v) :: rest
    else if key = k then (key, value) :: rest
    else (k, v) :: set key value rest

def setAll (fields : Fields) (pairs : List (String × String)) : Fields :=
  pairs.foldl (fun f (k, v) => f.set k v) fields

def get? (key : String) (fields : Fields) : Option String :=
  (fields.find? (·.1 = key)).map (·.2)

variable {key value : String} {fields : Fields}

@[simp] theorem get?_nil (key : String) : get? key [] = none := rfl

theorem get?_cons (key : String) (e : String × String) (fields : Fields) :
    get? key (e :: fields) = if e.1 = key then some e.2 else get? key fields := by
  by_cases same : e.1 = key <;> simp [get?, same]

theorem get?_set (key value : String) (fields : Fields) (other : String) :
    (fields.set key value).get? other = if key = other then some value else fields.get? other := by
  induction fields with
  | nil => simp [set, get?_cons]
  | cons e fields ih =>
    obtain ⟨k, v⟩ := e
    simp only [set]
    split
    · simp only [get?_cons]
    · split
      · simp only [get?_cons]
        split <;> simp_all
      · simp only [get?_cons, ih]
        split <;> simp_all

theorem mem_set {e : String × String} (member : e ∈ fields.set key value) :
    e.1 = key ∨ e ∈ fields := by
  induction fields with
  | nil => exact .inl (congrArg Prod.fst (List.mem_singleton.mp member))
  | cons first fields ih =>
    simp only [set] at member
    split at member
    case isTrue =>
      rcases List.mem_cons.mp member with rfl | old
      · exact .inl rfl
      · exact .inr old
    case isFalse =>
      split at member
      case isTrue =>
        rcases List.mem_cons.mp member with rfl | old
        · exact .inl rfl
        · exact .inr (List.mem_cons_of_mem _ old)
      case isFalse =>
        rcases List.mem_cons.mp member with rfl | later
        · exact .inr List.mem_cons_self
        · exact (ih later).imp_right (List.mem_cons_of_mem _)

/-- Names stay in order, and each is there once. -/
theorem set_ordered (ordered : fields.Pairwise (·.1 < ·.1)) (key value : String) :
    (fields.set key value).Pairwise (·.1 < ·.1) := by
  induction fields with
  | nil => exact List.pairwise_singleton _ _
  | cons first fields ih =>
    obtain ⟨above, rest⟩ := List.pairwise_cons.mp ordered
    simp only [set]
    split
    case isTrue below =>
      refine List.pairwise_cons.mpr ⟨?_, ordered⟩
      intro e member
      rcases List.mem_cons.mp member with rfl | later
      · exact below
      · exact String.lt_trans below (above e later)
    case isFalse notBelow =>
      split
      case isTrue same =>
        refine List.pairwise_cons.mpr ⟨?_, rest⟩
        rw [same]
        exact above
      case isFalse apart =>
        refine List.pairwise_cons.mpr ⟨?_, ih rest⟩
        intro e member
        rcases mem_set member with same | later
        · rw [same]
          exact Std.lt_of_le_of_ne (String.not_lt.mp notBelow) (Ne.symm apart)
        · exact above e later

end Fields
end ScriptScan
