import LintBook.Proofs.JsonRoundTrip
import LintBook.Proofs.Scalars

/-! The JSON forms of declarations without surrogates: their printed text is free of surrogates
too, and validation reads the declarations back from them. -/
namespace LintBook

namespace CodePoint

theorem isSurrogate_ofHexDigit (n : Nat) : (ofHexDigit n).isSurrogate = false := by
  have small : (ofHexDigit n).val < 0x80 := by
    unfold ofHexDigit
    split <;> simp only <;> omega
  simp only [isSurrogate, Bool.and_eq_false_iff, decide_eq_false_iff_not]
  omega

end CodePoint

namespace Text

theorem ofString_injective : Function.Injective ofString := by
  intro s t same
  have chars : Function.Injective CodePoint.ofChar := by
    intro c d equal
    have numbers : (CodePoint.ofChar c).val = (CodePoint.ofChar d).val := by rw [equal]
    exact Char.ext (UInt32.toNat_inj.mp numbers)
  exact String.toList_injective (List.map_injective_iff.mpr chars same)

theorem isScalar_hex (width n : Nat) : (hex width n).isScalar = true := by
  induction width generalizing n with
  | zero => rfl
  | succ width ih =>
    rw [hex, isScalar_append, ih, Bool.true_and, isScalar_cons]
    exact ⟨CodePoint.isSurrogate_ofHexDigit _, isScalar_nil⟩

end Text

namespace Json

section Printing

variable (r : Repertoire)

theorem isScalar_codeEscape (n : Nat) : (codeEscape n).isScalar = true := by
  rw [codeEscape, Text.isScalar_append, Text.isScalar_ofString, Text.isScalar_hex, Bool.true_and]

theorem isScalar_printChar {c : CodePoint} (scalar : c.isSurrogate = false) :
    (printChar r c).isScalar = true := by
  unfold printChar
  split
  case h_8 =>
    split
    · unfold codeEscapes
      split
      · exact isScalar_codeEscape _
      · simp only [Text.isScalar_append, isScalar_codeEscape, Bool.and_self]
    · exact Text.isScalar_cons.mpr ⟨scalar, Text.isScalar_nil⟩
  all_goals exact Text.isScalar_ofString _

theorem isScalar_printText {t : Text} (scalar : t.isScalar = true) :
    (printText r t).isScalar = true := by
  rw [printText, Text.isScalar_cons, Text.isScalar_append, Text.isScalar_flatMap]
  refine ⟨by decide, ?_⟩
  rw [Bool.and_eq_true, List.all_eq_true]
  refine ⟨fun c among => isScalar_printChar r ?_, by decide⟩
  simpa using List.all_eq_true.mp scalar c among

theorem isScalar_printItems {items : List Json}
    (each : ∀ v ∈ items, (print r v).isScalar = true) : (printItems r items).isScalar = true := by
  induction items with
  | nil => rfl
  | cons v items ih =>
    obtain ⟨first, later⟩ := List.forall_mem_cons.mp each
    simp only [printItems, Text.isScalar_append, Text.isScalar_ofString, first, ih later,
      Bool.and_self]

theorem isScalar_printMembers {members : List (Text × Json)}
    (names : ∀ m ∈ members, m.1.isScalar = true)
    (each : ∀ m ∈ members, (print r m.2).isScalar = true) :
    (printMembers r members).isScalar = true := by
  induction members with
  | nil => rfl
  | cons m members ih =>
    obtain ⟨name, names⟩ := List.forall_mem_cons.mp names
    obtain ⟨first, later⟩ := List.forall_mem_cons.mp each
    simp only [printMembers, Text.isScalar_append, Text.isScalar_ofString,
      isScalar_printText r name, first, ih names later, Bool.and_self]

theorem isScalar_print {depth : Nat} {v : Json} (textual : Textual depth v) :
    (print r v).isScalar = true := by
  induction textual with
  | null => exact Text.isScalar_ofString _
  | bool b => cases b <;> exact Text.isScalar_ofString _
  | str scalar => exact isScalar_printText r scalar
  | @arr _ items _ ih =>
    cases items with
    | nil => exact Text.isScalar_ofString _
    | cons v rest =>
      obtain ⟨first, later⟩ := List.forall_mem_cons.mp ih
      rw [print, Text.isScalar_cons]
      refine ⟨by decide, ?_⟩
      simp only [Text.isScalar_append, Text.isScalar_ofString, first, isScalar_printItems r later,
        Bool.and_self]
  | @obj _ members _ names _ ih =>
    cases members with
    | nil =>
      rw [print]
      decide
    | cons m rest =>
      obtain ⟨name, names⟩ := List.forall_mem_cons.mp names
      obtain ⟨first, later⟩ := List.forall_mem_cons.mp ih
      have closing : Text.isScalar [CodePoint.closeBrace] = true := by decide
      rw [print, Text.isScalar_cons]
      refine ⟨by decide, ?_⟩
      simp only [Text.isScalar_append, Text.isScalar_ofString, isScalar_printText r name, first,
        isScalar_printMembers r names later, closing, Bool.and_self]

end Printing

theorem Textual.object {depth : Nat} {members : List (String × Json)}
    (different : (members.map Prod.fst).Nodup) (each : ∀ m ∈ members, Textual depth m.2) :
    Textual (depth + 1) (.object members) := by
  refine .obj ?_ ?_ ?_
  · have names := different.map Text.ofString_injective
    rw [List.map_map] at names ⊢
    exact names
  · intro m among
    obtain ⟨member, _, rfl⟩ := List.mem_map.mp among
    exact Text.isScalar_ofString member.1
  · intro m among
    obtain ⟨member, declared, rfl⟩ := List.mem_map.mp among
    exact each member declared

end Json

namespace Check

variable {α : Type} {check : Check α} {v part : Json} {a : α}

theorem required_valid {name : String} (found : v.member? name = some part)
    (passes : check part = .valid a) : required name check v = .valid a := by
  rw [required, found]
  simp only [passes, Validated.under]

theorem optional_valid {name : String} {absent : α} (found : v.member? name = some part)
    (passes : check part = .valid a) : optional name absent check v = .valid a := by
  rw [optional, found]
  simp only [passes, Validated.under]

theorem itemsFrom_valid {form : α → Json} {items : List α}
    (passes : ∀ a ∈ items, check (form a) = .valid a) (n : Nat) :
    itemsFrom check n (items.map form) = .valid items := by
  induction items generalizing n with
  | nil => rfl
  | cons a items ih =>
    obtain ⟨first, later⟩ := List.forall_mem_cons.mp passes
    rw [List.map_cons, itemsFrom, first, ih later]
    rfl

end Check

namespace Declaration

variable {d : Declaration}

/-- A declaration with a name that can be shown is what its own JSON form stands for. -/
theorem check_toJson (named : d.name ≠ []) (scalar : d.name.isScalar = true) :
    check d.toJson = .valid d := by
  have name : Check.required "name" Check.properText d.toJson = .valid d.name := by
    have found : d.toJson.member? "name" = some (.str d.name) := rfl
    refine Check.required_valid found ?_
    rw [Check.properText, if_neg named, if_pos scalar]
  have configType : Check.required "config_type" Check.text d.toJson = .valid d.configType :=
    Check.required_valid rfl rfl
  have defaultValue : Check.required "default" Check.text d.toJson = .valid d.defaultValue :=
    Check.required_valid rfl rfl
  have docComment : Check.required "doc_comment" Check.text d.toJson = .valid d.docComment :=
    Check.required_valid rfl rfl
  have reason : Check.optional "deprecation_reason" none Check.textOrNull d.toJson =
      .valid d.deprecationReason := by
    refine Check.optional_valid rfl ?_
    cases d.deprecationReason <;> rfl
  have whole : check d.toJson = members d.toJson := rfl
  rw [whole, members, name, configType, defaultValue, docComment, reason]
  rfl

theorem textual_toJson (proper : d.IsProper) (depth : Nat) :
    Json.Textual (depth + 1) d.toJson := by
  have reason : Json.Textual depth (.ofText? d.deprecationReason) := by
    cases given : d.deprecationReason with
    | none => exact .null
    | some t => exact .str (proper.deprecationReason t given)
  refine .object (by simp) ?_
  simp only [List.forall_mem_cons]
  exact ⟨.str proper.name, .str proper.configType, .str proper.defaultValue,
    .str proper.docComment, reason, by simp⟩

end Declaration

namespace Request

variable {ds : List Declaration}

theorem ofJson_toJson (names : ∀ d ∈ ds, d.name ≠ [] ∧ d.name.isScalar = true) :
    ofJson (toJson ⟨ds⟩) = .ok ⟨ds⟩ := by
  have declarations : Check.optional "configs" [] (Check.arrayOf .notList Declaration.check)
      (toJson ⟨ds⟩) = .valid ds := by
    refine Check.optional_valid rfl ?_
    refine Check.itemsFrom_valid (fun d among => ?_) 0
    exact Declaration.check_toJson (names d among).1 (names d among).2
  have whole : check (toJson ⟨ds⟩) = members (toJson ⟨ds⟩) := rfl
  rw [ofJson, whole, members, declarations]
  rfl

variable (proper : ∀ d ∈ ds, d.IsProper)

include proper

theorem textual_items (depth : Nat) :
    Json.Textual (depth + 2) (.arr (ds.map Declaration.toJson)) := by
  refine .arr fun v among => ?_
  obtain ⟨d, declared, rfl⟩ := List.mem_map.mp among
  exact Declaration.textual_toJson (proper d declared) depth

theorem textual_toJson (depth : Nat) : Json.Textual (depth + 3) (toJson ⟨ds⟩) := by
  refine .object (by simp) ?_
  simp only [List.forall_mem_cons]
  exact ⟨textual_items proper depth, by simp⟩

end Request

end LintBook
