import ScriptScan.Json.Write

/-! What the two writers of JSON put down. They differ in the blanks before items, before
closing brackets and behind colons; all else they share. -/
namespace ScriptScan.Json

/-- A property holds of all values if it holds of each whose parts have it. -/
theorem induction {motive : Json → Prop} (null : motive null) (bool : ∀ b, motive (bool b))
    (nat : ∀ n, motive (nat n)) (text : ∀ s, motive (text s))
    (list : ∀ xs, (∀ x ∈ xs, motive x) → motive (list xs))
    (object : ∀ es, (∀ e ∈ es, motive e.2) → motive (object es)) (foreign : motive foreign)
    (j : Json) : motive j := by
  refine Json.rec (motive_1 := motive) (motive_2 := fun xs => ∀ x ∈ xs, motive x)
    (motive_3 := fun es => ∀ e ∈ es, motive e.2) (motive_4 := fun e => motive e.2)
    null bool nat text list object foreign ?_ ?_ ?_ ?_ ?_ j
  · simp
  · intro x xs head tail
    exact List.forall_mem_cons.mpr ⟨head, tail⟩
  · simp
  · intro e es head tail
    exact List.forall_mem_cons.mpr ⟨head, tail⟩
  · exact fun _ _ value => value

/-- The blanks between the parts of a value. -/
structure Layout where
  /-- Before an item or a closing bracket, by how far it is indented. -/
  gap : Nat → List Char
  colon : List Char

def Layout.dense : Layout := ⟨fun _ => [], []⟩

def Layout.lines : Layout := ⟨fun indent => '\n' :: List.replicate indent ' ', [' ']⟩

/-- A character of a text as it is written. -/
def escape (c : Char) : List Char := (putChar "" c).toList

def quote (text : String) : List Char := '"' :: text.toList.flatMap escape ++ ['"']

mutual

/-- The characters of a value. -/
def lay (l : Layout) (indent : Nat) : Json → List Char
  | null | foreign => ['n', 'u', 'l', 'l']
  | bool b => if b then ['t', 'r', 'u', 'e'] else ['f', 'a', 'l', 's', 'e']
  | nat n => Nat.toDigits 10 n
  | text s => quote s
  | list [] => ['[', ']']
  | list (x :: xs) =>
    '[' :: (l.gap (indent + 2) ++ (lay l (indent + 2) x ++
      (layItems l (indent + 2) xs ++ (l.gap indent ++ [']']))))
  | object [] => ['\x7b', '\x7d']
  | object ((k, x) :: es) =>
    '\x7b' :: (l.gap (indent + 2) ++ (quote k ++ (':' :: (l.colon ++ (lay l (indent + 2) x ++
      (layEntries l (indent + 2) es ++ (l.gap indent ++ ['\x7d'])))))))

/-- Items behind the first. -/
def layItems (l : Layout) (indent : Nat) : List Json → List Char
  | [] => []
  | x :: xs => ',' :: (l.gap indent ++ (lay l indent x ++ layItems l indent xs))

/-- Entries behind the first. -/
def layEntries (l : Layout) (indent : Nat) : List (String × Json) → List Char
  | [] => []
  | (k, x) :: es => ',' :: (l.gap indent ++ (quote k ++ (':' :: (l.colon ++
      (lay l indent x ++ layEntries l indent es)))))

end

theorem toList_putChar (out : String) (c : Char) :
    (putChar out c).toList = out.toList ++ escape c := by
  unfold escape putChar
  repeat' split
  all_goals simp

theorem toList_putText (out text : String) : (putText out text).toList = out.toList ++ quote text := by
  have put (cs : List Char) (out : String) :
      (cs.foldl putChar out).toList = out.toList ++ cs.flatMap escape := by
    induction cs generalizing out with
    | nil => simp
    | cons c cs ih => simp [ih, toList_putChar]
  simp [putText, quote, String.foldl_eq_foldl_toList, put]

theorem toList_putItems {xs : List Json}
    (items : ∀ x ∈ xs, ∀ out n, (put out x).toList = out.toList ++ lay .dense n x)
    (out : String) (n : Nat) :
    (putItems out xs).toList = out.toList ++ layItems .dense n xs := by
  induction xs generalizing out with
  | nil => simp [putItems, layItems]
  | cons x xs ih =>
    obtain ⟨first, others⟩ := List.forall_mem_cons.mp items
    simp [putItems, layItems, Layout.dense, ih others, first _ n]

theorem toList_putEntries {es : List (String × Json)}
    (entries : ∀ e ∈ es, ∀ out n, (put out e.2).toList = out.toList ++ lay .dense n e.2)
    (out : String) (n : Nat) :
    (putEntries out es).toList = out.toList ++ layEntries .dense n es := by
  induction es generalizing out with
  | nil => simp [putEntries, layEntries]
  | cons e es ih =>
    obtain ⟨k, x⟩ := e
    obtain ⟨first, others⟩ := List.forall_mem_cons.mp entries
    simp [putEntries, layEntries, Layout.dense, ih others, first _ n, toList_putText]

theorem toList_put (out : String) (n : Nat) (j : Json) :
    (put out j).toList = out.toList ++ lay .dense n j := by
  induction j using induction generalizing out n with
  | null | foreign | nat | text => simp [put, lay, toList_putText]
  | bool b => cases b <;> simp [put, lay]
  | list xs ih =>
    cases xs with
    | nil => simp [put, lay]
    | cons x xs =>
      obtain ⟨first, others⟩ := List.forall_mem_cons.mp ih
      simp [put, lay, Layout.dense, toList_putItems others _ (n + 2), first _ (n + 2)]
  | object es ih =>
    cases es with
    | nil => simp [put, lay]
    | cons e es =>
      obtain ⟨k, x⟩ := e
      obtain ⟨first, others⟩ := List.forall_mem_cons.mp ih
      simp [put, lay, Layout.dense, toList_putEntries others _ (n + 2), first _ (n + 2),
        toList_putText]

theorem toList_compact (j : Json) : j.compact.toList = lay .dense 0 j := by
  simp [compact, toList_put _ 0]

theorem toList_pushn (out : String) (c : Char) (n : Nat) :
    (out.pushn c n).toList = out.toList ++ List.replicate n c := by
  unfold String.pushn
  induction n with
  | zero => simp [Nat.repeat]
  | succ n ih => simp [Nat.repeat, ih, List.replicate_succ']

theorem toList_newLine (out : String) (indent : Nat) :
    (newLine out indent).toList = out.toList ++ Layout.lines.gap indent := by
  simp [newLine, Layout.lines, toList_pushn]

theorem toList_spreadItems {xs : List Json} {n : Nat}
    (items : ∀ x ∈ xs, ∀ n out, (spread n out x).toList = out.toList ++ lay .lines n x)
    (out : String) :
    (spreadItems n out xs).toList = out.toList ++ layItems .lines n xs := by
  induction xs generalizing out with
  | nil => simp [spreadItems, layItems]
  | cons x xs ih =>
    obtain ⟨first, others⟩ := List.forall_mem_cons.mp items
    simp [spreadItems, layItems, ih others, first, toList_newLine]

theorem toList_spreadEntries {es : List (String × Json)} {n : Nat}
    (entries : ∀ e ∈ es, ∀ n out, (spread n out e.2).toList = out.toList ++ lay .lines n e.2)
    (out : String) :
    (spreadEntries n out es).toList = out.toList ++ layEntries .lines n es := by
  induction es generalizing out with
  | nil => simp [spreadEntries, layEntries]
  | cons e es ih =>
    obtain ⟨k, x⟩ := e
    obtain ⟨first, others⟩ := List.forall_mem_cons.mp entries
    simp [spreadEntries, layEntries, ih others, first, toList_newLine, toList_putText]
    rfl

theorem toList_spread (n : Nat) (out : String) (j : Json) :
    (spread n out j).toList = out.toList ++ lay .lines n j := by
  induction j using induction generalizing out n with
  | null | foreign | bool | nat | text =>
    rw [spread, toList_put out n]
    rfl
    all_goals simp
  | list xs ih =>
    cases xs with
    | nil => simp [spread, put, lay]
    | cons x xs =>
      obtain ⟨first, others⟩ := List.forall_mem_cons.mp ih
      simp [spread, lay, toList_spreadItems others, first, toList_newLine]
  | object es ih =>
    cases es with
    | nil => simp [spread, put, lay]
    | cons e es =>
      obtain ⟨k, x⟩ := e
      obtain ⟨first, others⟩ := List.forall_mem_cons.mp ih
      simp [spread, lay, toList_spreadEntries others, first, toList_newLine, toList_putText]
      rfl

theorem toList_indented (j : Json) : j.indented.toList = lay .lines 0 j := by
  simp [indented, toList_spread]

end ScriptScan.Json
