import LintBook.Settings.Basic

/-! Settings that are read once. A successful reading is kept until it is cleared; a failed one is
not. -/
namespace LintBook.Settings

structure Cache where
  environment : Environment
  kept : Option Settings

namespace Cache

inductive Action
  | set (key value : Text)
  | unset (key : Text)
  | clear
  | get
  | construct
  | compare

inductive Answer
  | nothing
  | settings (s : Settings)
  | same (b : Bool)
  | refused (r : Refusal)
  | flawed (f : Environment.Flaw)

def empty : Cache := ⟨[], none⟩

/-- The kept settings, or those of the environment, which are then kept. -/
def get (lead : Text) (c : Cache) : Cache × Except Refusal Settings :=
  match c.kept with
  | some s => (c, .ok s)
  | none =>
    match Settings.read lead c.environment with
    | .ok s => ({ c with kept := some s }, .ok s)
    | .error r => (c, .error r)

def answer : Except Refusal Settings → Answer
  | .ok s => .settings s
  | .error r => .refused r

def step (lead : Text) (c : Cache) : Action → Cache × Answer
  | .set key value =>
    match Environment.flaw? key value with
    | some flaw => (c, .flawed flaw)
    | none => ({ c with environment := c.environment.set key value }, .nothing)
  | .unset key => ({ c with environment := c.environment.unset key }, .nothing)
  | .clear => ({ c with kept := none }, .nothing)
  | .get => ((get lead c).1, answer (get lead c).2)
  | .construct => (c, answer (Settings.read lead c.environment))
  | .compare =>
    match get lead c with
    | (c', .ok s) => (c', .same (c'.kept = some s))
    | (c', .error r) => (c', .refused r)

def run (lead : Text) (c : Cache) : List Action → List Answer
  | [] => []
  | a :: rest => (step lead c a).2 :: run lead (step lead c a).1 rest

end Cache

end LintBook.Settings
