import LintBook.Text.Basic
import LintBook.CodePoint.CaseTable

/-! Full case mapping: one character may become several, and a capital sigma becomes the final
form where it closes a word. -/
namespace LintBook

namespace CodePoint

private def ofNats (ns : List Nat) : Text := ns.filterMap ofNat?

/-- The case mapping that two tables give: several characters, one, or no change. -/
def mapCase (special : List (Nat × List Nat)) (runs : List CaseTable.Run) (c : CodePoint) : Text :=
  match special.lookup c.val with
  | some several => ofNats several
  | none => match CaseTable.lookup? runs c.val with
    | some n => ofNats [n]
    | none => [c]

def lower (c : CodePoint) : Text := mapCase CaseTable.lowerSpecial CaseTable.lower c

def upper (c : CodePoint) : Text := mapCase CaseTable.upperSpecial CaseTable.upper c

def isCased (c : CodePoint) : Bool := c.isIn CaseTable.cased

def isCaseIgnorable (c : CodePoint) : Bool := c.isIn CaseTable.ignorable

end CodePoint

namespace Text

/-- The form of the small sigma that closes a word. -/
def finalSigma : CodePoint := ⟨0x3C2, by decide⟩

/-- The first character that is not looked through is a cased one. -/
def meetsCased (t : Text) : Bool :=
  match t.dropWhile CodePoint.isCaseIgnorable with
  | [] => false
  | c :: _ => c.isCased

/-- Lower case of `t` where `before` stands in front of it, nearest character first. -/
def lowerAfter (before : Text) : Text → Text
  | [] => []
  | c :: rest =>
    (if c.val = 0x3A3 ∧ meetsCased before ∧ ¬ meetsCased rest then [finalSigma] else c.lower) ++
      lowerAfter (c :: before) rest

def lower (t : Text) : Text := lowerAfter [] t

def upper (t : Text) : Text := t.flatMap CodePoint.upper

end Text

end LintBook
