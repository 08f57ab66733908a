import Mathlib.Data.List.Basic
import LintBook.Settings.Cache

/-! The settings over a history. The answers to a run are read off the run itself: what is given is
what the environment said when the settings were given for the first time since they were last
cleared; whatever is set, unset or constructed later does not change it. -/
namespace LintBook.Settings

theorem uploadLimit_positive {value : Text} {n : Nat} (found : uploadLimit value = .ok n) :
    1 ≤ n := by
  rw [uploadLimit] at found
  split at found
  · cases found
  · cases found
  · rename_i limit _
    by_cases positive : 0 < limit
    · rw [if_pos positive] at found
      obtain rfl := Except.ok.inj found
      omega
    · rw [if_neg positive] at found
      cases found

theorem read_positive {lead : Text} {env : Environment} {s : Settings}
    (found : read lead env = .ok s) : 1 ≤ s.maxUploadBytes := by
  rw [read] at found
  cases given : env.lookup? (lead ++ uploadField) with
  | none =>
    have least : 1 ≤ standard.maxUploadBytes := by decide
    rw [given] at found
    obtain rfl := Except.ok.inj found
    exact least
  | some value =>
    rw [given] at found
    cases limit : uploadLimit value with
    | error r =>
      simp only [limit] at found
      cases found
    | ok n =>
      simp only [limit] at found
      obtain rfl := Except.ok.inj found
      exact uploadLimit_positive limit

namespace Cache

/-- Whether an action asks for the settings that are kept. -/
def Action.asks : Action → Bool
  | get | compare => true
  | _ => false

/-- The environment behind an action. A variable that cannot be set leaves it as it is. -/
def Action.environment (env : Environment) : Action → Environment
  | set key value => if Environment.flaw? key value = none then env.set key value else env
  | unset key => env.unset key
  | _ => env

def Answer.isRefusal : Answer → Bool
  | refused _ => true
  | _ => false

section Step

variable {lead : Text} {c : Cache} {s : Settings} {r : Refusal}

theorem get_kept (kept : c.kept = some s) : get lead c = (c, .ok s) := by
  rw [get, kept]

theorem get_read (empty : c.kept = none) (found : Settings.read lead c.environment = .ok s) :
    get lead c = ({ c with kept := some s }, .ok s) := by
  simp only [get, empty, found]

theorem get_refused (empty : c.kept = none)
    (refused : Settings.read lead c.environment = .error r) : get lead c = (c, .error r) := by
  simp only [get, empty, refused]

theorem get_environment (lead : Text) (c : Cache) :
    (get lead c).1.environment = c.environment := by
  cases kept : c.kept with
  | some s => rw [get_kept kept]
  | none =>
    cases found : Settings.read lead c.environment with
    | ok s => rw [get_read kept found]
    | error r => rw [get_refused kept found]

theorem get_gives (given : (get lead c).2 = .ok s) : (get lead c).1.kept = some s := by
  cases kept : c.kept with
  | some s' =>
    rw [get_kept kept] at given ⊢
    rw [kept, Except.ok.inj given]
  | none =>
    cases found : Settings.read lead c.environment with
    | ok s' =>
      rw [get_read kept found] at given ⊢
      rw [Except.ok.inj given]
    | error r =>
      rw [get_refused kept found] at given
      cases given

theorem answer_eq_settings {found : Except Refusal Settings} :
    answer found = .settings s ↔ found = .ok s := by
  cases found <;> simp [answer]

/-- Two actions give settings. -/
theorem step_gives {a : Action} (given : (step lead c a).2 = .settings s) :
    a = .get ∧ (get lead c).2 = .ok s ∨
      a = .construct ∧ Settings.read lead c.environment = .ok s := by
  cases a with
  | get => exact Or.inl ⟨rfl, answer_eq_settings.mp given⟩
  | construct => exact Or.inr ⟨rfl, answer_eq_settings.mp given⟩
  | set | compare =>
    rw [step] at given
    split at given <;> cases given
  | unset | clear => cases given

/-- Asking once more gives the same, so a comparison asks for the settings like a single call. -/
theorem step_asks {a : Action} (asks : a.asks = true) :
    (step lead c a).1 = (get lead c).1 ∧
      ((step lead c a).2.isRefusal = false ↔ ∃ s, (get lead c).2 = .ok s) := by
  cases a with
  | get =>
    refine ⟨rfl, ?_⟩
    rw [step]
    cases (get lead c).2 <;> simp [answer, Answer.isRefusal]
  | compare =>
    rw [step]
    split
    all_goals
      rename_i given
      rw [given]
      simp [Answer.isRefusal]
  | set | unset | clear | construct => cases asks

theorem step_quiet {a : Action} (quiet : a.asks = false) (noClear : a ≠ .clear) :
    (step lead c a).1.kept = c.kept := by
  cases a with
  | set key value =>
    rw [step]
    split <;> rfl
  | unset | construct => rfl
  | clear => exact absurd rfl noClear
  | get | compare => cases quiet

theorem step_environment (lead : Text) (c : Cache) (a : Action) :
    (step lead c a).1.environment = a.environment c.environment := by
  cases a with
  | set key value =>
    rw [step, Action.environment]
    cases flaw : Environment.flaw? key value <;> simp
  | get | compare =>
    rw [(step_asks rfl).1, get_environment]
    rfl
  | unset | clear | construct => rfl

end Step

/-- What is kept and the environment after some actions. -/
def after (lead : Text) (c : Cache) (past : List Action) : Cache :=
  past.foldl (fun c a => (step lead c a).1) c

/-- The environment after some actions, whatever was kept. -/
def environmentAfter (env : Environment) (past : List Action) : Environment :=
  past.foldl Action.environment env

theorem after_environment (lead : Text) (c : Cache) (past : List Action) :
    (after lead c past).environment = environmentAfter c.environment past := by
  induction past generalizing c with
  | nil => rfl
  | cons a past ih =>
    rw [after, List.foldl_cons, environmentAfter, List.foldl_cons, ← step_environment lead c a]
    exact ih _

theorem run_append (lead : Text) (c : Cache) (past later : List Action) :
    run lead c (past ++ later) = run lead c past ++ run lead (after lead c past) later := by
  induction past generalizing c with
  | nil => rfl
  | cons a past ih => rw [List.cons_append, run, run, ih, List.cons_append]; rfl

theorem length_run (lead : Text) (c : Cache) (actions : List Action) :
    (run lead c actions).length = actions.length := by
  induction actions generalizing c with
  | nil => rfl
  | cons a actions ih => rw [run, List.length_cons, List.length_cons, ih]

theorem run_getElem? (lead : Text) (c : Cache) (actions : List Action) (i : Nat) :
    (run lead c actions)[i]? =
      actions[i]?.map fun a => (step lead (after lead c (actions.take i)) a).2 := by
  induction actions generalizing c i with
  | nil => rfl
  | cons a actions ih =>
    cases i with
    | zero => rfl
    | succ i =>
      rw [run, List.getElem?_cons_succ, List.getElem?_cons_succ, ih, List.take_succ_cons]
      rfl

section History

variable (lead : Text) (env : Environment) (actions : List Action)

/-- The settings are asked for at a position of a run that begins with nothing kept, and given. -/
def Succeeds (i : Nat) : Prop :=
  ∃ a ∈ actions[i]?, a.asks = true ∧
    ∃ given ∈ (run lead ⟨env, none⟩ actions)[i]?, given.isRefusal = false

/-- The settings are cleared between two positions. -/
def Cleared (m i : Nat) : Prop := ∃ l, m < l ∧ l < i ∧ actions[l]? = some .clear

/-- In front of a position the settings were not given since they were last cleared. -/
def Unread (i : Nat) : Prop := ∀ m < i, Succeeds lead env actions m → Cleared actions m i

/-- Of the positions in front of `i` the one at which the settings were given for the first time
since they were last cleared. -/
def FirstSince (k i : Nat) : Prop :=
  k < i ∧ Succeeds lead env actions k ∧ ¬ Cleared actions k i ∧ Unread lead env actions k

/-- The state in front of a position. -/
def stateAt (i : Nat) : Cache := after lead ⟨env, none⟩ (actions.take i)

def environmentAt (i : Nat) : Environment := environmentAfter env (actions.take i)

theorem stateAt_environment (i : Nat) :
    (stateAt lead env actions i).environment = environmentAt env actions i :=
  after_environment _ _ _

variable {lead env actions}

theorem stateAt_succ {i : Nat} {a : Action} (here : actions[i]? = some a) :
    stateAt lead env actions (i + 1) = (step lead (stateAt lead env actions i) a).1 := by
  rw [stateAt, List.take_add_one, here, after, List.foldl_append]
  rfl

theorem stateAt_end {i : Nat} (ended : actions[i]? = none) :
    stateAt lead env actions (i + 1) = stateAt lead env actions i := by
  rw [stateAt, List.take_add_one, ended, Option.toList_none, List.append_nil, stateAt]

theorem answer_at {i : Nat} {a : Action} (here : actions[i]? = some a) :
    (run lead ⟨env, none⟩ actions)[i]? = some (step lead (stateAt lead env actions i) a).2 := by
  rw [run_getElem?, here]
  rfl

theorem succeeds_iff {i : Nat} {a : Action} (here : actions[i]? = some a) :
    Succeeds lead env actions i ↔
      a.asks = true ∧ ∃ s, (get lead (stateAt lead env actions i)).2 = .ok s := by
  constructor
  · rintro ⟨b, there, asks, given, answered, success⟩
    obtain rfl := Option.some.inj (here.symm.trans there)
    obtain rfl := Option.some.inj ((answer_at here).symm.trans answered)
    exact ⟨asks, (step_asks asks).2.mp success⟩
  · rintro ⟨asks, found⟩
    exact ⟨a, here, asks, _, answer_at here, (step_asks asks).2.mpr found⟩

theorem Cleared.mono {m i j : Nat} (cleared : Cleared actions m i) (later : i ≤ j) :
    Cleared actions m j := by
  obtain ⟨l, behind, inFront, clear⟩ := cleared
  exact ⟨l, behind, Nat.lt_of_lt_of_le inFront later, clear⟩

theorem Unread.succ {i : Nat} (unread : Unread lead env actions i)
    (failed : ¬ Succeeds lead env actions i) : Unread lead env actions (i + 1) := by
  intro m before success
  rcases Nat.lt_succ_iff_lt_or_eq.mp before with earlier | rfl
  · exact (unread m earlier success).mono (Nat.le_succ i)
  · exact absurd success failed

theorem Unread.of_clear {i : Nat} (clear : actions[i]? = some .clear) :
    Unread lead env actions (i + 1) := by
  intro m before success
  rcases Nat.lt_succ_iff_lt_or_eq.mp before with earlier | rfl
  · exact ⟨i, earlier, Nat.lt_succ_self i, clear⟩
  · cases ((succeeds_iff clear).mp success).1

theorem Unread.firstSince {i : Nat} (unread : Unread lead env actions i)
    (success : Succeeds lead env actions i) : FirstSince lead env actions i (i + 1) := by
  refine ⟨Nat.lt_succ_self i, success, ?_, unread⟩
  rintro ⟨l, behind, inFront, _⟩
  omega

theorem FirstSince.succ {k i : Nat} (first : FirstSince lead env actions k i)
    (noClear : actions[i]? ≠ some .clear) : FirstSince lead env actions k (i + 1) := by
  obtain ⟨before, success, kept, unread⟩ := first
  refine ⟨Nat.lt_succ_of_lt before, success, ?_, unread⟩
  rintro ⟨l, behind, inFront, clear⟩
  rcases Nat.lt_succ_iff_lt_or_eq.mp inFront with earlier | rfl
  · exact kept ⟨l, behind, earlier, clear⟩
  · exact noClear clear

/-- There is one such position at most. -/
theorem FirstSince.unique {k k' i : Nat} (first : FirstSince lead env actions k i)
    (again : FirstSince lead env actions k' i) : k = k' := by
  have ordered {k k' : Nat} (first : FirstSince lead env actions k i)
      (again : FirstSince lead env actions k' i) : ¬ k < k' := by
    intro earlier
    have cleared := again.2.2.2 k earlier first.2.1
    exact first.2.2.1 (cleared.mono (Nat.le_of_lt again.1))
  have := ordered first again
  have := ordered again first
  omega

/-- What is kept in front of a position: nothing, if the settings were not given since they were
last cleared, else what the environment said when they were. -/
structure Remembers (lead : Text) (env : Environment) (actions : List Action) (i : Nat) : Prop where
  empty : (stateAt lead env actions i).kept = none → Unread lead env actions i
  kept : ∀ s, (stateAt lead env actions i).kept = some s →
    ∃ k, FirstSince lead env actions k i ∧
      Settings.read lead (environmentAt env actions k) = .ok s

theorem Remembers.of_unread {i : Nat} (empty : (stateAt lead env actions i).kept = none)
    (unread : Unread lead env actions i) : Remembers lead env actions i := by
  refine ⟨fun _ => unread, ?_⟩
  intro s kept
  rw [empty] at kept
  cases kept

theorem Remembers.of_firstSince {k i : Nat} {s : Settings}
    (kept : (stateAt lead env actions i).kept = some s) (first : FirstSince lead env actions k i)
    (found : Settings.read lead (environmentAt env actions k) = .ok s) :
    Remembers lead env actions i := by
  constructor
  · intro empty
    rw [kept] at empty
    cases empty
  · intro s' same
    obtain rfl := Option.some.inj (kept.symm.trans same)
    exact ⟨k, first, found⟩

theorem Remembers.asked {i : Nat} {a : Action} (remembers : Remembers lead env actions i)
    (here : actions[i]? = some a) (asks : a.asks = true) : Remembers lead env actions (i + 1) := by
  have state : stateAt lead env actions (i + 1) = (get lead (stateAt lead env actions i)).1 := by
    rw [stateAt_succ here, (step_asks asks).1]
  have noClear : actions[i]? ≠ some .clear := by
    rw [here]
    rintro ⟨⟩
    cases asks
  cases kept : (stateAt lead env actions i).kept with
  | some s =>
    obtain ⟨k, first, found⟩ := remembers.kept s kept
    exact .of_firstSince (by rw [state, get_kept kept, kept]) (first.succ noClear) found
  | none =>
    have unread := remembers.empty kept
    cases found : Settings.read lead (stateAt lead env actions i).environment with
    | ok s =>
      have success : Succeeds lead env actions i :=
        (succeeds_iff here).mpr ⟨asks, s, by rw [get_read kept found]⟩
      rw [stateAt_environment] at found
      refine .of_firstSince ?_ (unread.firstSince success) found
      rw [state, get_read kept (by rw [stateAt_environment, found])]
    | error r =>
      have failed : ¬ Succeeds lead env actions i := by
        intro success
        obtain ⟨_, s, given⟩ := (succeeds_iff here).mp success
        rw [get_refused kept found] at given
        cases given
      exact .of_unread (by rw [state, get_refused kept found, kept]) (unread.succ failed)

theorem Remembers.quiet {i : Nat} (remembers : Remembers lead env actions i)
    (same : (stateAt lead env actions (i + 1)).kept = (stateAt lead env actions i).kept)
    (failed : ¬ Succeeds lead env actions i) (noClear : actions[i]? ≠ some .clear) :
    Remembers lead env actions (i + 1) := by
  constructor
  · intro empty
    exact (remembers.empty (same ▸ empty)).succ failed
  · intro s kept
    obtain ⟨k, first, found⟩ := remembers.kept s (same ▸ kept)
    exact ⟨k, first.succ noClear, found⟩

/-- No action, and no step past the end of the run, forgets anything but on being cleared. -/
theorem Remembers.succ {i : Nat} (remembers : Remembers lead env actions i) :
    Remembers lead env actions (i + 1) := by
  cases here : actions[i]? with
  | none =>
    refine remembers.quiet (by rw [stateAt_end here]) ?_ (by rw [here]; rintro ⟨⟩)
    rintro ⟨a, there, _⟩
    rw [here] at there
    cases there
  | some a =>
    cases asks : a.asks with
    | true => exact remembers.asked here asks
    | false =>
      by_cases clear : a = .clear
      · subst clear
        exact .of_unread (by rw [stateAt_succ here]; rfl) (.of_clear here)
      · refine remembers.quiet (by rw [stateAt_succ here, step_quiet asks clear]) ?_ ?_
        · intro success
          have := ((succeeds_iff here).mp success).1
          rw [asks] at this
          cases this
        · rw [here]
          exact fun same => clear (Option.some.inj same)

theorem remembers (i : Nat) : Remembers lead env actions i := by
  induction i with
  | zero => exact .of_unread rfl fun m before => absurd before (Nat.not_lt_zero m)
  | succ i ih => exact ih.succ

/-- Settings that are given were read at the first of the positions that gave them. -/
theorem exists_firstSince {i : Nat} {s : Settings} (here : actions[i]? = some .get)
    (given : (get lead (stateAt lead env actions i)).2 = .ok s) :
    ∃ k, FirstSince lead env actions k (i + 1) ∧
      Settings.read lead (environmentAt env actions k) = .ok s := by
  apply (remembers (i + 1)).kept
  rw [stateAt_succ here]
  exact get_gives given

theorem kept_eq_none_iff (i : Nat) :
    (stateAt lead env actions i).kept = none ↔ Unread lead env actions i := by
  refine ⟨(remembers i).empty, fun unread => ?_⟩
  cases kept : (stateAt lead env actions i).kept with
  | none => rfl
  | some s =>
    obtain ⟨k, ⟨before, success, notCleared, _⟩, _⟩ := (remembers i).kept s kept
    exact absurd (unread k before success) notCleared

/-- Where nothing is kept the environment at hand decides, and a refusal keeps nothing. -/
theorem answer_of_empty {i : Nat} (here : actions[i]? = some .get)
    (empty : (stateAt lead env actions i).kept = none) :
    (run lead ⟨env, none⟩ actions)[i]? =
        some (answer (Settings.read lead (environmentAt env actions i))) ∧
      ∀ r, Settings.read lead (environmentAt env actions i) = .error r →
        (stateAt lead env actions (i + 1)).kept = none := by
  rw [answer_at here, stateAt_succ here, step, ← stateAt_environment lead]
  cases found : Settings.read lead (stateAt lead env actions i).environment with
  | ok s =>
    rw [get_read empty found]
    refine ⟨rfl, ?_⟩
    rintro r ⟨⟩
  | error r =>
    rw [get_refused empty found]
    exact ⟨rfl, fun _ _ => empty⟩

theorem given_of_read {i : Nat} {s : Settings} (here : actions[i]? = some .get)
    (found : Settings.read lead (environmentAt env actions i) = .ok s) :
    ∃ s', (run lead ⟨env, none⟩ actions)[i]? = some (.settings s') := by
  cases kept : (stateAt lead env actions i).kept with
  | some s' =>
    refine ⟨s', ?_⟩
    rw [answer_at here, step, get_kept kept]
    rfl
  | none =>
    refine ⟨s, ?_⟩
    rw [(answer_of_empty here kept).1, found]
    rfl

theorem positive_of_mem_run {s : Settings} (given : .settings s ∈ run lead ⟨env, none⟩ actions) :
    1 ≤ s.maxUploadBytes := by
  obtain ⟨i, answered⟩ := List.mem_iff_getElem?.mp given
  cases here : actions[i]? with
  | none =>
    rw [run_getElem?, here] at answered
    cases answered
  | some a =>
    rw [answer_at here, Option.some.injEq] at answered
    rcases step_gives answered with ⟨rfl, found⟩ | ⟨rfl, found⟩
    · obtain ⟨_, _, read⟩ := exists_firstSince here found
      exact read_positive read
    · exact read_positive found

end History

/-- Without settings that are constructed on the way the other answers are the same. -/
theorem run_without_construct (lead : Text) (c : Cache) (front back : List Action) :
    run lead c (front ++ back) =
      (run lead c (front ++ .construct :: back)).eraseIdx front.length := by
  rw [run_append, run_append, run, ← length_run lead c front,
    List.eraseIdx_append_of_length_le (Nat.le_refl _), Nat.sub_self]
  rfl

/-- What a run from nothing kept answers. Settings that are given are those of the environment at the
one position at which they were given for the first time since they were last cleared. Nothing is
kept exactly where there is no such position; the environment at hand decides then, and a refusal
keeps nothing. Where the environment at hand can be read, settings are given in any case. Settings
that are constructed are those of the environment at hand, and leave every other answer as it is. No
settings allow less than one byte. -/
theorem run_settings (lead : Text) (env : Environment) (actions : List Action) :
    (∀ i s, actions[i]? = some .get →
      (run lead ⟨env, none⟩ actions)[i]? = some (.settings s) →
        (∃! k, FirstSince lead env actions k (i + 1)) ∧
          ∀ k, FirstSince lead env actions k (i + 1) →
            Settings.read lead (environmentAt env actions k) = .ok s) ∧
      (∀ i, (stateAt lead env actions i).kept = none ↔ Unread lead env actions i) ∧
      (∀ i, actions[i]? = some .get → (stateAt lead env actions i).kept = none →
        (run lead ⟨env, none⟩ actions)[i]? =
            some (answer (Settings.read lead (environmentAt env actions i))) ∧
          ∀ r, Settings.read lead (environmentAt env actions i) = .error r →
            (stateAt lead env actions (i + 1)).kept = none) ∧
      (∀ i s, actions[i]? = some .get →
        Settings.read lead (environmentAt env actions i) = .ok s →
          ∃ s', (run lead ⟨env, none⟩ actions)[i]? = some (.settings s')) ∧
      (∀ i, actions[i]? = some .construct →
        (run lead ⟨env, none⟩ actions)[i]? =
          some (answer (Settings.read lead (environmentAt env actions i)))) ∧
      (∀ front back, actions = front ++ .construct :: back →
        run lead ⟨env, none⟩ (front ++ back) =
          (run lead ⟨env, none⟩ actions).eraseIdx front.length) ∧
      ∀ s, .settings s ∈ run lead ⟨env, none⟩ actions → 1 ≤ s.maxUploadBytes := by
  refine ⟨?_, kept_eq_none_iff, fun _ => answer_of_empty, fun _ _ => given_of_read, ?_, ?_,
    fun _ => positive_of_mem_run⟩
  · intro i s here given
    rw [answer_at here, Option.some.injEq] at given
    obtain ⟨k, first, found⟩ := exists_firstSince here (answer_eq_settings.mp given)
    refine ⟨⟨k, first, fun k' again => again.unique first⟩, ?_⟩
    intro k' again
    rwa [again.unique first]
  · intro i here
    rw [answer_at here, ← stateAt_environment lead]
    rfl
  · rintro front back rfl
    exact run_without_construct lead _ front back

/-- A limit is refused, repaired and kept, though another one is constructed, until it is
cleared. -/
theorem run_settings_repaired :
    let limit (value : Text) := Action.set "CONFDOC_MAX_UPLOAD_BYTES" value
    let actions := [limit "0", .get, limit "2048", .get, limit "7", .construct, .get, .clear, .get]
    run "confdoc_" ⟨[], none⟩ actions =
        [.nothing, .refused (refuse .notPositive "0"), .nothing, .settings ⟨"INFO", 2048⟩, .nothing,
          .settings ⟨"INFO", 7⟩, .settings ⟨"INFO", 2048⟩, .nothing, .settings ⟨"INFO", 7⟩] ∧
      (∃! k, FirstSince "confdoc_" [] actions k 7) ∧
      ∀ k, FirstSince "confdoc_" [] actions k 7 →
        Settings.read "confdoc_" (environmentAt [] actions k) = .ok ⟨"INFO", 2048⟩ := by
  intro limit actions
  have ran : run "confdoc_" ⟨[], none⟩ actions =
      [.nothing, .refused (refuse .notPositive "0"), .nothing, .settings ⟨"INFO", 2048⟩, .nothing,
        .settings ⟨"INFO", 7⟩, .settings ⟨"INFO", 2048⟩, .nothing, .settings ⟨"INFO", 7⟩] := rfl
  exact ⟨ran, (run_settings "confdoc_" [] actions).1 6 ⟨"INFO", 2048⟩ rfl (by rw [ran]; rfl)⟩

end Cache

end LintBook.Settings
