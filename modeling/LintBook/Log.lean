import LintBook.Json.Literal

/-! Events as data: a computation returns what it has to report beside its value, in order. -/
namespace LintBook

namespace Log

inductive Level
  | warning
  | info
deriving DecidableEq

inductive Event
  | malformedComment (name : Json)
  | writingBook (entries : Nat)
  | fallbackDecoding (used : Text) (detected : Option Text)

def Event.level : Event → Level
  | malformedComment _ | fallbackDecoding .. => .warning
  | writingBook _ => .info

def Event.message : Event → Text
  | malformedComment name =>
    ("malformed doc comment for config " : Text) ++ name.literal
  | writingBook entries =>
    ("rendering configuration book with " : Text) ++ Text.ofNat entries ++ (" configs" : Text)
  | fallbackDecoding used detected =>
    ("declarations decoded with fallback " : Text) ++ used ++ (" (detected " : Text) ++
      detected.getD "None" ++ (")" : Text)

end Log

/-- A value and the events reported on the way to it. -/
structure Logged (α : Type) where
  value : α
  events : List Log.Event

namespace Logged

variable {α β : Type}

instance : Monad Logged where
  pure a := ⟨a, []⟩
  bind x f := ⟨(f x.value).value, x.events ++ (f x.value).events⟩

def report (e : Log.Event) : Logged Unit := ⟨(), [e]⟩

@[simp] theorem value_pure (a : α) : (pure a : Logged α).value = a := rfl

@[simp] theorem events_pure (a : α) : (pure a : Logged α).events = [] := rfl

@[simp] theorem value_bind (x : Logged α) (f : α → Logged β) :
    (x >>= f).value = (f x.value).value := rfl

@[simp] theorem events_bind (x : Logged α) (f : α → Logged β) :
    (x >>= f).events = x.events ++ (f x.value).events := rfl

@[simp] theorem value_report (e : Log.Event) : (report e).value = () := rfl

@[simp] theorem events_report (e : Log.Event) : (report e).events = [e] := rfl

end Logged

end LintBook
