/-
# Tables of remembered answers

A table stores answers under keys that say less than the queries they answered.
`Remembers` is the invariant of such a table over a run: every stored answer is
the answer to some earlier query with that key. Dropping entries keeps it, and
so does storing the answer to a new query. An answer found in the table is right
for a query as soon as the earlier queries with its key have the same answer.
-/

import Mathlib.Data.List.Basic

namespace Goveling.Math

universe u v w

variable {Q : Type u} {K : Type v} {V : Type w}

/-- Every entry answers an earlier query with its key. -/
def Remembers (key : Q → K) (value : Q → V) (past : List Q) (table : List (K × V)) : Prop :=
  ∀ entry ∈ table, ∃ query ∈ past, key query = entry.1 ∧ value query = entry.2

/-- The queries with the key of `query` have its answer. -/
def AgreesOn (key : Q → K) (value : Q → V) (past : List Q) (query : Q) : Prop :=
  ∀ earlier ∈ past, key earlier = key query → value earlier = value query

section Table

variable {key : Q → K} {value : Q → V} {past : List Q} {table : List (K × V)}

@[simp]
theorem remembers_nil : Remembers key value past [] := by
  intro entry hentry
  cases hentry

/-- Entries may be dropped, whichever and for whatever reason. -/
theorem Remembers.of_subset {smaller : List (K × V)} (hremembers : Remembers key value past table)
    (hsubset : smaller ⊆ table) : Remembers key value past smaller :=
  fun entry hentry => hremembers entry (hsubset hentry)

/-- A longer past explains at least as much. -/
theorem Remembers.extend (hremembers : Remembers key value past table) (query : Q) :
    Remembers key value (past ++ [query]) table := by
  intro entry hentry
  obtain ⟨earlier, hearlier, hkey, hvalue⟩ := hremembers entry hentry
  exact ⟨earlier, List.mem_append_left _ hearlier, hkey, hvalue⟩

/-- The answer to a new query may be stored under its key. -/
theorem Remembers.store {larger : List (K × V)} {query : Q}
    (hremembers : Remembers key value past table)
    (hlarger : ∀ entry ∈ larger, entry = (key query, value query) ∨ entry ∈ table) :
    Remembers key value (past ++ [query]) larger := by
  intro entry hentry
  rcases hlarger entry hentry with rfl | hold
  · exact ⟨query, List.mem_append_right _ List.mem_cons_self, rfl, rfl⟩
  · exact hremembers.extend query entry hold

/-- What is found under the key of a query is its answer. -/
theorem Remembers.hit {query : Q} {answer : V} (hremembers : Remembers key value past table)
    (hagrees : AgreesOn key value past query) (hfound : (key query, answer) ∈ table) :
    answer = value query := by
  obtain ⟨earlier, hearlier, hkey, hvalue⟩ := hremembers _ hfound
  rw [← hagrees earlier hearlier hkey]
  exact hvalue.symm

end Table

end Goveling.Math
