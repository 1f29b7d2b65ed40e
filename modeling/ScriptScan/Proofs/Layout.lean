import ScriptScan.Proofs.MaximalMunch

/-! Tokens laid out as text. Whatever separates them, scanning the text gives the
tokens back, as long as each is formed like its kind and no two of them touch. -/
namespace ScriptScan

/-- Text without any character of a token. -/
def IsGap (text : String) : Prop := ∀ c ∈ text.toList, isTokenChar c = false

instance (text : String) : Decidable (IsGap text) :=
  decidable_of_iff (text.toList.all (!isTokenChar ·) = true) (by simp [IsGap])

/-- The texts of tokens in their order: `lead` before all, and behind each token what
it is paired with. -/
def layout (lead : String) : List (Token × String) → String
  | [] => lead
  | (t, gap) :: rest => lead ++ t.text ++ layout gap rest

/-- Well-formed tokens with gaps around them. Only the last may have an empty gap behind it. -/
structure Printable (lead : String) (pieces : List (Token × String)) : Prop where
  formed : ∀ p ∈ pieces, p.1.WellFormed
  lead_gap : IsGap lead
  gaps : ∀ p ∈ pieces, IsGap p.2
  apart : ∀ p ∈ pieces.dropLast, p.2 ≠ ""

/-- Tokens with one blank between each two. -/
def spaced : List Token → List (Token × String)
  | [] => []
  | [t] => [(t, "")]
  | t :: u :: rest => (t, " ") :: spaced (u :: rest)

theorem Kind.extendedBy_separator (k : Kind) (separator : isTokenChar c = false) :
    k.extendedBy c = false := by
  cases k <;> simp_all [Kind.extendedBy, isTokenChar, isWordChar]

namespace Printable

theorem nil (lead_gap : IsGap lead) : Printable lead [] := by
  constructor <;> simp [lead_gap]

theorem cons (lead_gap : IsGap lead) (formed : t.WellFormed) (apart : rest = [] ∨ gap ≠ "")
    (printable : Printable gap rest) : Printable lead ((t, gap) :: rest) where
  formed := List.forall_mem_cons.mpr ⟨formed, printable.formed⟩
  lead_gap := lead_gap
  gaps := List.forall_mem_cons.mpr ⟨printable.lead_gap, printable.gaps⟩
  apart := by
    cases rest with
    | nil => simp
    | cons next rest => exact List.forall_mem_cons.mpr ⟨by simpa using apart, printable.apart⟩

theorem tail (printable : Printable lead ((t, gap) :: rest)) : Printable gap rest where
  formed := (List.forall_mem_cons.mp printable.formed).2
  lead_gap := (List.forall_mem_cons.mp printable.gaps).1
  gaps := (List.forall_mem_cons.mp printable.gaps).2
  apart := by
    intro p member
    apply printable.apart p
    cases rest with
    | nil => simp at member
    | cons next rest => exact List.mem_cons_of_mem _ member

theorem head_separator (printable : Printable lead ((t, gap) :: rest))
    (head : (layout gap rest).toList.head? = some c) : isTokenChar c = false := by
  have separators : IsGap gap := printable.tail.lead_gap
  cases rest with
  | nil => exact separators c (List.mem_of_head? head)
  | cons next rest =>
    have inhabited : gap ≠ "" := printable.apart (t, gap) (by simp)
    cases chars : gap.toList with
    | nil => exact absurd (String.toList_eq_nil_iff.mp chars) inhabited
    | cons d more =>
      obtain rfl : d = c := by simpa [layout, chars] using head
      exact separators d (by simp [chars])

theorem munch (printable : Printable lead pieces) :
    Munch (layout lead pieces).toList (pieces.map Prod.fst) := by
  induction pieces generalizing lead with
  | nil => exact .done printable.lead_gap
  | cons piece rest ih =>
    obtain ⟨t, gap⟩ := piece
    have formed : t.WellFormed := printable.formed (t, gap) (by simp)
    rw [layout, String.toList_append, String.toList_append]
    refine .token printable.lead_gap formed ?_ (ih printable.tail)
    intro c head
    exact t.kind.extendedBy_separator (printable.head_separator head)

end Printable

theorem tokenize_layout (printable : Printable lead pieces) :
    tokenize (layout lead pieces) = (pieces.map Prod.fst).toArray := by
  have munch : MaximalMunch (layout lead pieces) (pieces.map Prod.fst).toArray := printable.munch
  exact munch.eq_tokenize.symm

theorem map_fst_spaced (ts : List Token) : (spaced ts).map Prod.fst = ts := by
  fun_induction spaced ts with
  | case1 | case2 => rfl
  | case3 t u rest ih => rw [List.map_cons, ih]

theorem layout_spaced (lead : String) (ts : List Token) :
    layout lead (spaced ts) = lead ++ " ".intercalate (ts.map Token.text) := by
  fun_induction spaced ts generalizing lead with
  | case1 => simp [layout]
  | case2 t => simp [layout]
  | case3 t u rest ih =>
    rw [layout, ih]
    simp only [List.map_cons, String.intercalate_cons_cons, String.append_assoc]

theorem printable_spaced (lead_gap : IsGap lead) (formed : ∀ t ∈ ts, t.WellFormed) :
    Printable lead (spaced ts) := by
  have blank : IsGap " " := by decide
  have nothing : IsGap "" := by decide
  fun_induction spaced ts generalizing lead with
  | case1 => exact .nil lead_gap
  | case2 t => exact .cons lead_gap (formed t (by simp)) (.inl rfl) (.nil nothing)
  | case3 t u rest ih =>
    obtain ⟨first, others⟩ := List.forall_mem_cons.mp formed
    exact .cons lead_gap first (.inr (by simp)) (ih blank others)

theorem tokenize_wellFormed (text : String) : ∀ t ∈ (tokenize text).toList, t.WellFormed :=
  Munch.wellFormed (maximalMunch_run false text)

/-- Scanning gives back the tokens that were laid out, whatever the gaps between them are.
The tokens of a text are laid out again by single blanks. -/
theorem tokenize_inverts_layout :
    (∀ lead pieces, Printable lead pieces →
        tokenize (layout lead pieces) = (pieces.map Prod.fst).toArray) ∧
      ∀ text, tokenize (" ".intercalate ((tokenize text).toList.map Token.text)) =
        tokenize text := by
  refine ⟨fun lead pieces => tokenize_layout, fun text => ?_⟩
  have printable : Printable "" (spaced (tokenize text).toList) :=
    printable_spaced (by decide) (tokenize_wellFormed text)
  have scanned := tokenize_layout printable
  rwa [layout_spaced, String.empty_append, map_fst_spaced] at scanned

/-- Stems of a keyword, the keyword and a name that starts with it, in odd gaps. -/
theorem tokenize_inverts_layout_of_stems :
    let pieces : List (Token × String) :=
      [(⟨.identifier, "in"⟩, "é"), (⟨.intKeyword, "int"⟩, ";\n"), (⟨.identifier, "int1"⟩, "")]
    Printable "\t" pieces ∧ tokenize (layout "\t" pieces) = (pieces.map Prod.fst).toArray := by
  intro pieces
  have printable : Printable "\t" pieces := by
    refine .cons (by decide) (by decide) (.inr (by decide)) ?_
    refine .cons (by decide) (by decide) (.inr (by decide)) ?_
    exact .cons (by decide) (by decide) (.inl rfl) (.nil (by decide))
  exact ⟨printable, tokenize_inverts_layout.1 "\t" pieces printable⟩

end ScriptScan
