import LintBook.Book
import LintBook.Draft

/-! A workspace of drafts and of the entries made from them, changed one action at a time. -/
namespace LintBook

inductive Failure
  | flawed (f : Draft.Flaw)
  | duplicateName (d : DuplicateName)
  | noSuchItem

namespace Book

/-- The entries of declarations that are still to be checked. The first bad one is the failure. -/
def collectChecked (declarations : List Json) : Logged (Except Failure (List Entry)) :=
  match declarations.mapM Declaration.ofJson with
  | .error r => pure (.error (.flawed (.refused r)))
  | .ok ds => do
    match ← collect ds with
    | .error d => pure (.error (.duplicateName d))
    | .ok entries => pure (.ok entries)

/-- Entries that are still to be checked, in their order. -/
def readEntries (entries : List Json) : Except Failure (List Entry) :=
  match entries.mapM Entry.ofJson with
  | .error r => .error (.flawed (.refused r))
  | .ok es => .ok es

/-- One entry for each draft, in the order of their names. -/
def collectDrafts (drafts : List Draft) : Logged (Except Failure (List Entry)) := do
  let gathered ← gather (fun d => Except.mapError .flawed <$> d.entry) .duplicateName [] drafts
  pure (gathered.map sortByName)

end Book

structure Workspace where
  drafts : List Draft
  entries : List Entry

namespace Workspace

def empty : Workspace := ⟨[], []⟩

/-- New values for some parts of a draft. -/
structure Update where
  name : Option Json
  configType : Option Json
  defaultValue : Option Json
  docComment : Option Json
  deprecationReason : Option Json

/-- The draft with the new values, which are not checked. -/
def Update.apply (u : Update) (d : Draft) : Draft :=
  { name := u.name.getD d.name
    configType := u.configType.getD d.configType
    defaultValue := u.defaultValue.getD d.defaultValue
    docComment := u.docComment.getD d.docComment
    deprecationReason := u.deprecationReason.getD d.deprecationReason }

inductive Action
  | declare (v : Json)
  | redeclare (index : Int) (u : Update)
  | drop (index : Int)
  | reverse
  | collect
  | propose (d : Draft)
  | record (v : Json)
  | assign (index : Int) (field : Text) (v : Json)
  | equal (a b : Int)
  | view (index : Int)
  | book
  | links
  | list
  | malformed
  | forLint (lint : Text)

inductive Answer
  | done
  | flag (b : Bool)
  | text (t : Text)
  | names (ns : List Text)
  | entry (e : Entry)

abbrev Result := Except Failure (Workspace × Answer)

/-- The place that an index stands for among `count` items. A negative one counts from the end. -/
def place? (count : Nat) (index : Int) : Option Nat :=
  let n := if index < 0 then index + count else index
  if 0 ≤ n ∧ n < count then some n.toNat else none

def item? {α : Type} (items : List α) (index : Int) : Option α :=
  (place? items.length index).bind fun n => items[n]?

def addEntry (w : Workspace) : Except Draft.Flaw Entry → Result
  | .ok e => .ok ({ w with entries := w.entries ++ [e] }, .done)
  | .error f => .error (.flawed f)

def answer (w : Workspace) (a : Answer) : Result := .ok (w, a)

def perform (w : Workspace) : Action → Logged Result
  | .declare v => pure <| match Declaration.ofJson v with
    | .ok d => .ok ({ w with drafts := w.drafts ++ [Draft.ofDeclaration d] }, .done)
    | .error r => .error (.flawed (.refused r))
  | .redeclare index u => pure <| match item? w.drafts index with
    | some d => .ok ({ w with drafts := w.drafts ++ [u.apply d] }, .done)
    | none => .error .noSuchItem
  | .drop index => pure <| match place? w.drafts.length index with
    | some n => .ok ({ w with drafts := w.drafts.eraseIdx n }, .done)
    | none => .error .noSuchItem
  | .reverse => pure (.ok ({ w with drafts := w.drafts.reverse }, .done))
  | .collect => do
    match ← Book.collectDrafts w.drafts with
    | .ok entries => pure (.ok ({ w with entries := entries }, .done))
    | .error f => pure (.error f)
  | .propose d => do
    let e ← d.entry
    pure (w.addEntry e)
  | .record v => pure (w.addEntry ((Entry.ofJson v).mapError .refused))
  | .assign index field v => pure <| match item? w.entries index with
    | some _ => match Entry.assign? field v with
      | some r => .error (.flawed (.refused r))
      | none => w.answer .done
    | none => .error .noSuchItem
  | .equal a b => pure <| match item? w.entries a, item? w.entries b with
    | some x, some y => w.answer (.flag (x = y))
    | _, _ => .error .noSuchItem
  | .view index => pure <| match item? w.entries index with
    | some e => w.answer (.entry e)
    | none => .error .noSuchItem
  | .book => do
    let t ← Book.write w.entries
    pure (w.answer (.text t))
  | .links => pure (w.answer (.text (Book.links w.entries)))
  | .list => pure (w.answer (.text (Book.list w.entries)))
  | .malformed => pure (w.answer (.names ((Book.malformed w.entries).map Entry.name)))
  | .forLint lint => pure (w.answer (.names ((Book.forLint w.entries lint).map Entry.name)))

/-- What an action answers, and the workspace after it. A failed action changes nothing. -/
structure Trace where
  result : Except Failure Answer
  after : Workspace

/-- The workspace after an action and what the action came to. -/
def settle (w : Workspace) : Result → Trace
  | .ok (w', a) => ⟨.ok a, w'⟩
  | .error f => ⟨.error f, w⟩

def run (w : Workspace) : List Action → Logged (List Trace)
  | [] => pure []
  | a :: rest => do
    let result ← w.perform a
    let trace := w.settle result
    let later ← run trace.after rest
    pure (trace :: later)

end Workspace

end LintBook
