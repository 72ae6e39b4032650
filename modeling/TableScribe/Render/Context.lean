/-
The renderings of one kind in progress.  Their number is kept beside them, so
asking for it does not walk through them.
-/
import TableScribe.Model.Node

namespace TableScribe

/-- A rendering in progress. -/
structure Entry where
  model : Model
  /-- How many renderings were in progress once this one had begun. -/
  depth : Nat

/-- The renderings of one kind in progress, innermost first, and their number. -/
structure Context where
  entries : List Entry
  size : Nat
  size_eq : size = entries.length

namespace Context

def empty : Context := ⟨[], 0, rfl⟩

def push (context : Context) (entry : Entry) : Context :=
  ⟨entry :: context.entries, context.size + 1, by simp [context.size_eq]⟩

def pop (context : Context) : Context :=
  ⟨context.entries.tail, context.size - 1, by simp [context.size_eq]⟩

def top? (context : Context) : Option Entry := context.entries.head?

def isEmpty (context : Context) : Bool := context.entries.isEmpty

/-- A context is known by its renderings. -/
@[ext] theorem ext {a b : Context} (h : a.entries = b.entries) : a = b := by
  cases a with
  | mk entries size size_eq =>
      cases b with
      | mk entries' size' size_eq' =>
          simp only at h
          subst h
          subst size_eq
          subst size_eq'
          rfl

@[simp] theorem pop_push (context : Context) (entry : Entry) :
    (context.push entry).pop = context :=
  Context.ext rfl

@[simp] theorem top?_push (context : Context) (entry : Entry) :
    (context.push entry).top? = some entry := rfl

end Context

end TableScribe
