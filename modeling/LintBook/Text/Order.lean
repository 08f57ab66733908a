import LintBook.Text.Basic

/-! The order of texts by code points: a total order. -/
namespace LintBook.Text

/-- The order of texts by their first different code points; a beginning comes before the whole. -/
def le : Text → Text → Bool
  | [], _ => true
  | _ :: _, [] => false
  | c :: t, d :: u => if c.val = d.val then le t u else c.val < d.val

/-- A text before another, by equal first code points or by a smaller one. -/
theorem le_cons_iff {c d : CodePoint} {t u : Text} :
    le (c :: t) (d :: u) = true ↔ c.val < d.val ∨ c.val = d.val ∧ le t u = true := by
  by_cases same : c.val = d.val
  · simp [le, same]
  · simp [le, same]

theorem le_total (t u : Text) : le t u = true ∨ le u t = true := by
  induction t generalizing u with
  | nil => exact Or.inl rfl
  | cons c t ih =>
    cases u with
    | nil => exact Or.inr rfl
    | cons d u =>
      rw [le_cons_iff, le_cons_iff]
      rcases Nat.lt_trichotomy c.val d.val with less | same | more
      · exact Or.inl (Or.inl less)
      · exact (ih u).imp (fun h => Or.inr ⟨same, h⟩) (fun h => Or.inr ⟨same.symm, h⟩)
      · exact Or.inr (Or.inl more)

theorem le_antisymm {t u : Text} (below : le t u = true) (above : le u t = true) : t = u := by
  induction t generalizing u with
  | nil =>
    cases u with
    | nil => rfl
    | cons d u => cases above
  | cons c t ih =>
    cases u with
    | nil => cases below
    | cons d u =>
      rw [le_cons_iff] at below above
      obtain ⟨same, rest⟩ : c.val = d.val ∧ le t u = true := below.resolve_left (by omega)
      rw [Fin.ext same, ih rest (above.resolve_left (by omega)).2]

theorem le_trans {t u v : Text} (below : le t u = true) (above : le u v = true) :
    le t v = true := by
  induction t generalizing u v with
  | nil => rfl
  | cons c t ih =>
    cases u with
    | nil => cases below
    | cons d u =>
      cases v with
      | nil => cases above
      | cons e v =>
        rw [le_cons_iff] at below above ⊢
        rcases below with less | ⟨same, rest⟩
        · rcases above with more | ⟨equal, _⟩
          · exact Or.inl (Nat.lt_trans less more)
          · exact Or.inl (equal ▸ less)
        · rcases above with more | ⟨equal, last⟩
          · exact Or.inl (same ▸ more)
          · exact Or.inr ⟨same.trans equal, ih rest last⟩

end LintBook.Text
